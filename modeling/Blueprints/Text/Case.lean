
namespace Blueprints.Text

/-- Whether a character has an upper and a lower case, among the Latin letters. -/
def isCased (c : Char) : Bool :=
  c.isAlpha || (0xC0 ≤ c.toNat && c.toNat ≤ 0xFF && c.toNat != 0xD7 && c.toNat != 0xF7)

def upper (c : Char) : Char :=
  if 0xE0 ≤ c.toNat && c.toNat ≤ 0xFE && c.toNat != 0xF7 then Char.ofNat (c.toNat - 0x20)
  else c.toUpper

def lower (c : Char) : Char :=
  if 0xC0 ≤ c.toNat && c.toNat ≤ 0xDE && c.toNat != 0xD7 then Char.ofNat (c.toNat + 0x20)
  else c.toLower

end Blueprints.Text
