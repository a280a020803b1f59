import ContractBridge.Text.CombiningMark
import ContractBridge.Text.Graphic

/-!
# Characters that print

Which characters stand for themselves when a single character is quoted: the graphic ones, but
for the combining marks, which would join the quote before them, and the Hangul fillers, which
show nothing.
-/

namespace ContractBridge.Text

/-- The letters that hold the place of a missing Korean letter and have no shape.  No other
letter, number or symbol of Unicode 17.0 is ignored by default when text is displayed. -/
def hangulFillers : CodePointRanges :=
  [(0x115F, 0x1160), (0x3164, 0x3164), (0xFFA0, 0xFFA0)]

def isHangulFiller (c : Char) : Bool :=
  hangulFillers.includes c

def isPrintable (c : Char) : Bool :=
  isGraphic c && !isCombiningMark c && !isHangulFiller c

end ContractBridge.Text
