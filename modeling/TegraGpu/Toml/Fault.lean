import TegraGpu.Toml.Value
/-!
# Refusals of TOML documents

A document that cannot be read is refused with a message and, for most refusals, the stretch
of text the message is about.  Most messages say what was found and then what was expected there: `key with no value,
expected` followed by the things that would have done, each either a character sequence, shown
between backticks, or a description, shown as it is; an empty list of them reads `nothing`.

* `Expected` : one thing that would have done.
* `Fault`, `Fault.make`, `Fault.unlocated` : a refusal, one made from its parts, and one about
  no place in the text.
-/

namespace TegraGpu.Toml

/-- Something that would have been accepted where a document went wrong. -/
inductive Expected where
  /-- These characters. -/
  | literal (text : String)
  /-- Something described in words. -/
  | description (text : String)

/-- How a message names what was expected. -/
def Expected.text : Expected → String
  | .literal t => "`" ++ t ++ "`"
  | .description t => t

/-- Why a document, or a record read from it, is refused: the words and the stretch of text
they are about, if they are about one. -/
structure Fault where
  /-- What is wrong. -/
  message : String
  /-- Where; `none` for a refusal of the document as a whole. -/
  span : Option Span

/-- A refusal from what went wrong, what was expected if anything, and where. -/
def Fault.make (what : String) (expected : Option (List Expected)) (span : Span) : Fault :=
  let tail := match expected with
    | none => ""
    | some [] => ", expected nothing"
    | some es => ", expected " ++ ", ".intercalate (es.map Expected.text)
  { message := what ++ tail, span := some span }

/-- A refusal that names no place in the text. -/
def Fault.unlocated (what : String) : Fault := { message := what, span := none }

/-- The empty stretch at a byte. -/
def Span.at (pos : Nat) : Span := ⟨pos, pos⟩

end TegraGpu.Toml
