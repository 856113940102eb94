import TegraGpu.Text.Hexdump
import TegraGpu.Buffer.Object
/-!
# Pixel dumps

A pixel dump shows memory as little-endian words, four to a line of sixteen bytes.  Each line
starts with the index of its first word and a colon; the bytes of a last line that do not make a
whole word are left out.
-/

namespace TegraGpu.Bench

/-- The words of a list of bytes, little end first, dropping an incomplete last word. -/
def wordsOf : List UInt8 → List UInt32
  | b0 :: b1 :: b2 :: b3 :: rest =>
    (b0.toUInt32 ||| (b1.toUInt32 <<< 8) ||| (b2.toUInt32 <<< 16) ||| (b3.toUInt32 <<< 24)) ::
      wordsOf rest
  | _ => []

/-- The dump of a byte string, four words to a line. -/
def pixelDump (data : ByteArray) : String :=
  let lines := Text.chunksOf 16 data.toList
  String.join ((List.range lines.length).zip lines |>.map fun (i, chunk) =>
    toString (i * 4) ++ ":" ++ String.join ((wordsOf chunk).map (" " ++ Text.wordHex ·)) ++ "\n")

end TegraGpu.Bench
