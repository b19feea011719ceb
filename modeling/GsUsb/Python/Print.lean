/-
# Frames as text

`Frame.__repr__`, which `dump.py` prints, and the lines of `capture.py`.
-/

import GsUsb.Math.Printf
import GsUsb.Python.Frame

namespace GsUsb.Python

open GsUsb.Driver GsUsb.Math

/-- The names of the tags that are set. -/
def tagNames (tags : List (Bool × List Char)) : List (List Char) :=
  (tags.filter Prod.fst).map Prod.snd

/-- Names with commas between them, or nothing. -/
def tagText (before after : List Char) (names : List (List Char)) : List Char :=
  if names = [] then [] else before ++ [','].intercalate names ++ after

/-- The quote around the readable column. -/
def quote : Char := Char.ofNat 39

/-- The readable column. -/
def asciiColumn (bs : Bytes) : List Char :=
  bs.map fun b => if 32 ≤ b ∧ b < 127 then Char.ofNat b.toNat else '.'

/-- `Frame.__repr__`. -/
def Frame.repr (frame : Frame) : List Char :=
  let tags := tagNames
    [(frame.isExtended, ['E', 'F', 'F']), (frame.isRtr, ['R', 'T', 'R']),
      (frame.isError, ['E', 'R', 'R']), (frame.isFd, ['F', 'D']), (frame.isBrs, ['B', 'R', 'S']),
      (frame.isEsi, ['E', 'S', 'I'])]
  ['F', 'r', 'a', 'm', 'e', '(', 'i', 'd', '=', '0', 'x'] ++ upperHex frame.id ++
    tagText [' ', '['] [']'] tags ++ [',', ' ', 'l', 'e', 'n', '='] ++
    decimal frame.data.length ++ [',', ' ', 'd', 'a', 't', 'a', '='] ++ joinedHex frame.data ++
    [')']

/-- `format_frame` of `capture.py`. -/
def formatFrame (frame : Frame) (iface : List Char) : List Char :=
  let tags := tagNames
    [(frame.isExtended, ['E', 'F', 'F']), (frame.isRtr, ['R', 'T', 'R']),
      (frame.isError, ['E', 'R', 'R']), (frame.isFd, ['F', 'D']), (frame.isBrs, ['B', 'R', 'S'])]
  '(' :: paddedSignedSeconds 16 frame.timestampUs ++ [')', ' '] ++ iface.rightpad 6 ' ' ++
    ' ' :: paddedHex 8 frame.id ++ tagText [' '] [] tags ++ [' ', ' ', '['] ++
    decimal frame.data.length ++ [']', ' '] ++ (joinedHex frame.data).rightpad 23 ' ' ++
    [' ', ' ', quote] ++ asciiColumn frame.data ++ [quote]

example :
    formatFrame ⟨0x80000123, [0x07, 0x41], 0, 1500000⟩ ['c', 'a', 'n', '0'] =
      "(        1.500000) can0   00000123 EFF  [2] 07 41                    '.A'".toList := by
  decide +kernel

end GsUsb.Python
