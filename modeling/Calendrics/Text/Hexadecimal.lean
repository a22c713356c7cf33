/-! Hexadecimal digits. -/
namespace Calendrics.Text

def hexDigits : List Char := "0123456789abcdef".toList

/-- The value of a hexadecimal digit of either case. -/
def hexDigit (c : Char) : Option Nat := hexDigits.idxOf? c.toLower

end Calendrics.Text
