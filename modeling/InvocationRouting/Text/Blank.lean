/-!
# Blank — white space

The characters with the property White_Space, and the texts that consist of them alone.
-/

namespace InvocationRouting
namespace Blank

def isBlank (c : Char) : Bool :=
  let n := c.toNat
  (0x09 ≤ n && n ≤ 0x0D) || n == 0x20 || n == 0x85 || n == 0xA0 || n == 0x1680 ||
    (0x2000 ≤ n && n ≤ 0x200A) || n == 0x2028 || n == 0x2029 || n == 0x202F || n == 0x205F ||
    n == 0x3000

/-- A text without a visible character, the empty text included. -/
def isBlankText (s : String) : Bool :=
  s.toList.all isBlank

end Blank
end InvocationRouting
