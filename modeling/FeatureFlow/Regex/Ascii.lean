import FeatureFlow.Unicode.CharSet

/-! Classes of ASCII characters. -/
namespace FeatureFlow.Regex.Ascii

open Unicode

def digit : CharSet := ⟨[(0x30, 0x39)]⟩

def space : CharSet := ⟨[(0x9, 0xD), (0x20, 0x20)]⟩

def word : CharSet := ⟨[(0x30, 0x39), (0x41, 0x5A), (0x5F, 0x5F), (0x61, 0x7A)]⟩

/-- The classes written with colons inside brackets. -/
def named : NameTable :=
  [(["alnum"], ⟨[(0x30, 0x39), (0x41, 0x5A), (0x61, 0x7A)]⟩),
   (["alpha"], ⟨[(0x41, 0x5A), (0x61, 0x7A)]⟩), (["ascii"], ⟨[(0, 0x7F)]⟩),
   (["blank"], ⟨[(0x9, 0x9), (0x20, 0x20)]⟩), (["cntrl"], ⟨[(0, 0x1F), (0x7F, 0x7F)]⟩),
   (["digit"], digit), (["graph"], ⟨[(0x21, 0x7E)]⟩), (["lower"], ⟨[(0x61, 0x7A)]⟩),
   (["print"], ⟨[(0x20, 0x7E)]⟩),
   (["punct"], ⟨[(0x21, 0x2F), (0x3A, 0x40), (0x5B, 0x60), (0x7B, 0x7E)]⟩),
   (["space"], space), (["upper"], ⟨[(0x41, 0x5A)]⟩), (["word"], word),
   (["xdigit"], ⟨[(0x30, 0x39), (0x41, 0x46), (0x61, 0x66)]⟩)]

end FeatureFlow.Regex.Ascii
