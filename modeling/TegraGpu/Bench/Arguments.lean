import TegraGpu.Error
import TegraGpu.Text.Blank
import TegraGpu.Binary32.Read
import TegraGpu.Binary32.Decode
/-!
# Test arguments

A shader test is given its expected pixel as `0x` and hexadecimal digits, with blanks around
allowed, and its uniforms as `["name"] = value`: a vertex uniform's value is four numbers in
parentheses separated by commas, a fragment uniform's value one number.  Names are nonempty and
hold no double quote; blanks may stand around the `=`, the numbers and the whole argument.

* `parseExpected` : the expected pixel.
* `splitUniform?` : the name and value text of a uniform argument.
* `VertexUniform`, `FragmentUniform`, `parseVertexUniform`, `parseFragmentUniform` : uniforms.
-/

namespace TegraGpu.Bench

open Text Binary32

/-- A vertex uniform: a name and four numbers. -/
structure VertexUniform where
  /-- The uniform's name in the vertex shader. -/
  name : String
  /-- Its four values. -/
  values : Single × Single × Single × Single

/-- A fragment uniform: a name and one number. -/
structure FragmentUniform where
  /-- The uniform's name in the fragment shader. -/
  name : String
  /-- Its value. -/
  value : Single

/-- Reads an expected pixel: `0x` (lower case) and hexadecimal digits, blanks around. -/
def parseExpected (arg : String) : Except Error UInt32 :=
  match trim arg.toList with
  | '0' :: 'x' :: digits =>
    match readWord? 16 digits with
    | some w => .ok w
    | none => .error (.argument .badExpected)
  | _ => .error (.argument .badExpected)

/-- Splits at the first occurrence of the two characters `a b`. -/
def splitPair (a b : Char) : List Char → Option (List Char × List Char)
  | [] => none
  | c :: rest =>
    match rest with
    | d :: after => if c = a ∧ d = b then some ([], after)
      else (splitPair a b rest).map fun (x, y) => (c :: x, y)
    | [] => none

/-- The name and the value text of `["name"] = value`. -/
def splitUniform? (arg : String) : Option (String × List Char) :=
  match trim arg.toList with
  | '[' :: '"' :: rest =>
    match splitPair '"' ']' rest with
    | none => none
    | some (name, after) =>
      match trimStart after with
      | '=' :: value =>
        if name.isEmpty || name.contains '"' then none
        else some (String.ofList name, trim value)
      | _ => none
  | _ => none

/-- Splits a text at every comma. -/
def splitCommas (cs : List Char) : List (List Char) :=
  cs.splitOn ','

/-- Reads a vertex uniform argument. -/
def parseVertexUniform (arg : String) : Except Error VertexUniform :=
  let fail : Except Error VertexUniform := .error (.argument (.badArgument arg))
  match splitUniform? arg with
  | none => fail
  | some (name, value) =>
    match value with
    | '(' :: inner =>
      if inner.getLast? ≠ some ')' then fail
      else
        let parts := (splitCommas inner.dropLast).map fun p => readBits? (trim p)
        match parts with
        | [some a, some b, some c, some d] => .ok ⟨name, (⟨a⟩, ⟨b⟩, ⟨c⟩, ⟨d⟩)⟩
        | _ => fail
    | _ => fail

/-- Reads a fragment uniform argument. -/
def parseFragmentUniform (arg : String) : Except Error FragmentUniform :=
  match splitUniform? arg with
  | none => .error (.argument (.badArgument arg))
  | some (name, value) =>
    match readBits? value with
    | some v => .ok ⟨name, ⟨v⟩⟩
    | none => .error (.argument (.badArgument arg))

end TegraGpu.Bench
