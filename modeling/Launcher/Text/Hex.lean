/-!
# Octets in hexadecimal
-/

namespace Launcher.Text

/-- Octets as pairs of lower-case hexadecimal digits. -/
def hex (bytes : List UInt8) : String :=
  String.ofList (bytes.flatMap fun b =>
    [Nat.digitChar (b.toNat / 16), Nat.digitChar (b.toNat % 16)])

end Launcher.Text
