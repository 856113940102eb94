import TegraGpu.Host.Handle
/-!
# Buffer objects

A buffer object is a view of a backing store: the store is one device allocation, shared by all
views made from it, and a view sees `size` bytes of it from `offset` on, with a set of flags.
The store counts the views that hold it and is released when the last one goes; at most one
mapping of a store exists at a time.

* `Flags` : the two flags, with their bits and printed form.
* `Store`, `Stores` : a backing store with its reference count and mapping flag, and the live
  stores under keys that are never given twice.
* `View` : a view, with `View.debugText` its printed form.
-/

namespace TegraGpu.Buffer

open Host

/-- The flags of a view. -/
structure Flags where
  /-- The memory is cached. -/
  cached : Bool := false
  /-- The memory is a render target. -/
  renderTarget : Bool := false
  deriving DecidableEq

/-- The bits of the flags: one for cached, two for render target. -/
def Flags.bits (f : Flags) : Nat :=
  (if f.cached then 1 else 0) + (if f.renderTarget then 2 else 0)

/-- The printed form of the flags: the set names joined by bars, or the empty set in hex. -/
def Flags.debugText (f : Flags) : String :=
  let names := (if f.cached then ["CACHED"] else []) ++
    (if f.renderTarget then ["RENDER_TARGET"] else [])
  "BoFlags(" ++ (if names.isEmpty then "0x0" else " | ".intercalate names) ++ ")"

/-- A backing store: one device allocation shared by views. -/
structure Store where
  /-- The allocation. -/
  handle : Handle
  /-- The size asked for, before alignment. -/
  size : Nat
  /-- The number of views that hold the store. -/
  refs : Nat
  /-- Whether a mapping of the store exists. -/
  mapped : Bool := false

/-- The live backing stores, each under a key of its own.  The key is the identity of the
store: keys are counted up and never given twice, even when the device gives two stores the
same handle. -/
structure Stores where
  /-- The stores with their keys, oldest first. -/
  entries : List (Nat × Store)
  /-- The key of the next store. -/
  next : Nat
  /-- Every key in use was given before `next`. -/
  lt_next : ∀ e ∈ entries, e.1 < next
  /-- No key is used twice. -/
  nodup : (entries.map Prod.fst).Nodup

namespace Stores

/-- No store. -/
def empty : Stores := ⟨[], 0, (fun _ h => nomatch h), List.nodup_nil⟩

/-- The keys in use. -/
def keys (ss : Stores) : List Nat := ss.entries.map Prod.fst

/-- The store under a key. -/
def find? (ss : Stores) (k : Nat) : Option Store := ss.entries.lookup k

/-- Adds a store under the next key, and gives the key. -/
def add (ss : Stores) (st : Store) : Nat × Stores :=
  (ss.next, ⟨ss.entries ++ [(ss.next, st)], ss.next + 1, by
    intro e he
    rcases List.mem_append.1 he with he | he
    · exact Nat.lt_succ_of_lt (ss.lt_next e he)
    · rw [List.mem_singleton.1 he]
      exact Nat.lt_succ_self _, by
    rw [List.map_append, List.nodup_append]
    refine ⟨ss.nodup, by simp, ?_⟩
    intro a ha b hb
    simp only [List.map_cons, List.map_nil, List.mem_singleton] at hb
    subst hb
    obtain ⟨e, he, rfl⟩ := List.mem_map.1 ha
    exact Nat.ne_of_lt (ss.lt_next e he)⟩)

/-- Changes the store under a key. -/
def modify (ss : Stores) (k : Nat) (f : Store → Store) : Stores :=
  have keys : (ss.entries.map (fun e => if e.1 = k then (e.1, f e.2) else e)).map Prod.fst =
      ss.entries.map Prod.fst := by
    rw [List.map_map]
    apply List.map_congr_left
    intro e _
    by_cases h : e.1 = k <;> simp [h]
  ⟨ss.entries.map (fun e => if e.1 = k then (e.1, f e.2) else e), ss.next, by
    intro e he
    obtain ⟨e', he', rfl⟩ := List.mem_map.1 he
    split <;> exact ss.lt_next e' he', by
    rw [keys]
    exact ss.nodup⟩

/-- Removes the store under a key. -/
def erase (ss : Stores) (k : Nat) : Stores :=
  ⟨ss.entries.filter (fun e => e.1 != k), ss.next,
    fun e he => ss.lt_next e (List.mem_filter.1 he).1,
    ss.nodup.sublist (List.filter_sublist.map _)⟩

end Stores

/-- A view of a backing store. -/
structure View where
  /-- The key of the store. -/
  store : Nat
  /-- The store's allocation. -/
  handle : Handle
  /-- The first byte of the view in the store. -/
  offset : Nat
  /-- The bytes of the view. -/
  size : Nat
  /-- The view's flags. -/
  flags : Flags
  deriving DecidableEq

/-- The printed form of a view. -/
def View.debugText (v : View) : String :=
  "BufferObject \x7b handle: BoHandle(" ++ toString v.handle.id.toNat ++ "), offset: " ++
    toString v.offset ++ ", size: " ++ toString v.size ++ ", flags: " ++ v.flags.debugText ++ " \x7d"

end TegraGpu.Buffer
