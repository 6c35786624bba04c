import Verdict.Numeral.Reading
import Verdict.Value

namespace Verdict

inductive HostValue
  | textList (items : List String)
  | text (s : String)
  | bool (b : Bool)
  | float (x : Float)
  | int (n : Int)
  | unsupported (shape : String)
deriving BEq

variable [PatternEngine]

def HostValue.toValue (name : String) : HostValue → Value
  | textList items => .patternList (.ofTexts items)
  | text s => .text s
  | bool b => .boolean b
  | float x => .number x
  | int n => .number (Numeral.ofInt n)
  | unsupported shape => .error (.unsupported name shape)

end Verdict
