import TegraGpu.Surface.Basic
/-!
# Saving surfaces as images

A surface is saved as a PNG image.  The format is chosen by the file name's extension, which must
be `png` in any case; the file is then created in the working directory, whose parent directory
must exist.  Either failure is an image error, which says why.  The image bytes themselves are not modelled:
saving creates the file and writes the info record.

* `imageExtension?` : the extension of a path's file name.
* `Surface.save` : the operation.
-/

namespace TegraGpu.Surface

open Act

/-- The extension of the last part of a path: what follows its last point, when that point is
not the part's first character. -/
def imageExtension? (path : String) : Option String :=
  let name := ((path.splitOn "/").filter (· ≠ "")).getLast?.getD ""
  let cs := name.toList
  if name = ".." then none
  else
    match cs.reverse.span (· ≠ '.') with
    | (_, []) => none
    | (ext, _ :: before) => if before.isEmpty then none else some (String.ofList ext.reverse)

/-- Whether an extension names the PNG format. -/
def isPngExtension (ext : String) : Bool :=
  ext.toList.map Text.lowerAscii == "png".toList

/-- Creates the image file of a surface at `path`. -/
def writeImage (path : String) : Act Unit := do
  match imageExtension? path with
  | some ext => if !isPngExtension ext then throw (.image (.unsupportedExtension ext))
  | none => throw (.image .unknownFormat)
  let m ← get
  match m.folder.write path "" with
  | .ok folder => set { m with folder }
  | .error failure => throw (.image (.io failure))

/-- Saves the surface as an image and writes the info record. -/
def save (s : Surface) (path : String) : Act Unit := do
  let _ ← s.toRgba8
  writeImage path
  note .info .surface ("Saved " ++ toString s.width ++ "x" ++ toString s.height ++
    " framebuffer to " ++ path)

end TegraGpu.Surface
