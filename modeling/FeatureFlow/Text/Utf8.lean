/-! UTF-8: strict reading, and reading with U+FFFD for what is malformed. -/
namespace FeatureFlow.Text

/-- The least and the greatest second byte a lead byte allows, and how many bytes follow it. -/
def followers (lead : UInt8) : Option (Nat × UInt8 × UInt8) :=
  if lead < 0xC2 then none
  else if lead ≤ 0xDF then some (1, 0x80, 0xBF)
  else if lead = 0xE0 then some (2, 0xA0, 0xBF)
  else if lead = 0xED then some (2, 0x80, 0x9F)
  else if lead ≤ 0xEF then some (2, 0x80, 0xBF)
  else if lead = 0xF0 then some (3, 0x90, 0xBF)
  else if lead ≤ 0xF3 then some (3, 0x80, 0xBF)
  else if lead = 0xF4 then some (3, 0x80, 0x8F)
  else none

/-- Reads up to `n` continuation bytes, the first of them between `low` and `high`: the bytes read
and the rest. -/
def continuation : Nat → UInt8 → UInt8 → List UInt8 → List UInt8 × List UInt8
  | n + 1, low, high, b :: bs =>
    if low ≤ b ∧ b ≤ high then
      let (taken, rest) := continuation n 0x80 0xBF bs
      (b :: taken, rest)
    else ([], b :: bs)
  | _, _, _, bs => ([], bs)

theorem continuation_rest_length (n : Nat) (low high : UInt8) (bs : List UInt8) :
    (continuation n low high bs).2.length ≤ bs.length := by
  induction bs generalizing n low high with
  | nil => cases n <;> simp [continuation]
  | cons b bs ih =>
    cases n with
    | zero => simp [continuation]
    | succ n =>
      simp only [continuation]
      split
      · exact Nat.le_succ_of_le (ih n 0x80 0xBF)
      · simp

/-- The code point of a well-formed sequence with this lead byte. -/
def codePoint (lead : UInt8) (tail : List UInt8) : Nat :=
  let bits := match tail.length with
    | 1 => lead.toNat % 32
    | 2 => lead.toNat % 16
    | _ => lead.toNat % 8
  tail.foldl (fun n b => 64 * n + b.toNat % 64) bits

/-- One item per character, or `none` for a longest malformed run. -/
def scan (bs : List UInt8) : List (Option Char) :=
  match bs with
  | [] => []
  | b :: bs =>
    if b < 0x80 then some (Char.ofNat b.toNat) :: scan bs
    else match followers b with
      | none => none :: scan bs
      | some (n, low, high) =>
        let read := continuation n low high bs
        (if read.1.length = n then some (Char.ofNat (codePoint b read.1)) else none) :: scan read.2
termination_by bs.length
decreasing_by
  · simp
  · simp
  · have := continuation_rest_length n low high bs
    simp only [List.length_cons]
    omega

def decode? (bs : List UInt8) : Option (List Char) := (scan bs).mapM id

def decodeLossy (bs : List UInt8) : List Char := (scan bs).map (·.getD '�')

def encode (cs : List Char) : List UInt8 := cs.flatMap String.utf8EncodeChar

end FeatureFlow.Text
