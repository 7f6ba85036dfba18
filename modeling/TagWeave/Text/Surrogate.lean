/-!
# Lone surrogates

A text may hold code points that are halves of a pair of UTF-16 units, without the other
half. They are no characters and cannot be encoded, but an escape may write one. Here private
characters stand for them, those from `fd800` to `fdfff` for those from `d800` to `dfff`.

In the names of files, the second halves from `dc80` to `dcff` stand for bytes that are no
UTF-8, and can be encoded as these.
-/

namespace TagWeave.Text

/-- Whether a character stands for a lone surrogate. -/
def isLone (c : Char) : Bool := 0xfd800 ≤ c.toNat && c.toNat < 0xfe000

/-- The code point that a character stands for. -/
def codePoint (c : Char) : Nat := if isLone c then c.toNat - 0xf0000 else c.toNat

/-- The character that stands for a code point. -/
def ofCodePoint (n : Nat) : Char :=
  Char.ofNat (if 0xd800 ≤ n && n < 0xe000 then n + 0xf0000 else n)

/-- Whether a character stands for a byte in the name of a file. -/
def isByte (c : Char) : Bool := isLone c && 0xdc80 ≤ codePoint c && codePoint c ≤ 0xdcff

/-- Why a text cannot be encoded: code points that stand next to each other, from a position on. -/
structure EncodeError where
  position : Nat
  units : List Nat
  deriving DecidableEq, Repr

/-- Why a text from a position on cannot be encoded, if so. Some characters are excused. -/
def encodeErrorFrom? (excused : Char → Bool) (position : Nat) : List Char → Option EncodeError
  | [] => none
  | c :: cs =>
    if isLone c && !excused c then some ⟨position, (c :: cs.takeWhile isLone).map codePoint⟩
    else encodeErrorFrom? excused (position + 1) cs

/-- Why a text cannot be encoded, if so. -/
def encodeError? (cs : List Char) : Option EncodeError := encodeErrorFrom? (fun _ => false) 0 cs

theorem encodeErrorFrom?_eq_none_iff {excused : Char → Bool} {position : Nat} {cs : List Char} :
    encodeErrorFrom? excused position cs = none ↔ ∀ c ∈ cs, isLone c = true → excused c = true := by
  induction cs generalizing position with
  | nil => simp [encodeErrorFrom?]
  | cons c cs ih =>
      rw [encodeErrorFrom?, List.forall_mem_cons, ← @ih (position + 1)]
      cases isLone c <;> cases excused c <;> simp

/-- Whether a text can be encoded: it holds no lone surrogate. -/
def IsEncodable (cs : List Char) : Prop := ∀ c ∈ cs, isLone c = false

instance (cs : List Char) : Decidable (IsEncodable cs) :=
  List.decidableBAll (fun c => isLone c = false) cs

theorem encodeError?_eq_none_iff {cs : List Char} : encodeError? cs = none ↔ IsEncodable cs := by
  simp [encodeError?, encodeErrorFrom?_eq_none_iff, IsEncodable]

end TagWeave.Text
