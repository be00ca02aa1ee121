import QueryDesk.Number.Digits

/-!
# Percent-encoding

* `encode set cs`   characters of `set`, and all outside ASCII, as `%` and two digits a byte;
* `decode cs`       the bytes of a text, each `%` with two digits being one byte;
* `controlSet` and the sets built on it   what is encoded in each part of a URL.
-/

namespace QueryDesk.Percent

/-! ## bytes -/

def encodeByte (b : UInt8) : List Char := ['%', Hex.upper (b.toNat / 16), Hex.upper (b.toNat % 16)]

/-! ## encoding -/

/-- what has to be encoded, of ASCII -/
abbrev EncodeSet := Char → Bool

def encodeChar (set : EncodeSet) (c : Char) : List Char :=
  if c.toNat < 0x80 && !set c then [c] else (String.utf8EncodeChar c).flatMap encodeByte

def encode (set : EncodeSet) (cs : List Char) : List Char := cs.flatMap (encodeChar set)

theorem encode_eq_self {set : EncodeSet} {cs : List Char}
    (h : ∀ c ∈ cs, c.toNat < 0x80 ∧ set c = false) : encode set cs = cs := by
  induction cs with
  | nil => rfl
  | cons c cs ih =>
    have hc := h c (by simp)
    have hr := ih fun d hd => h d (by simp [hd])
    simp [encode, encodeChar, hc.1, hc.2] at hr ⊢
    exact hr

def controlSet : EncodeSet := fun c => c.toNat < 0x20 || c.toNat = 0x7F

def fragmentSet : EncodeSet := fun c => controlSet c || c ∈ [' ', '"', '<', '>', '\x60']

def querySet : EncodeSet := fun c => controlSet c || c ∈ [' ', '"', '#', '<', '>', '\'']

def pathSet : EncodeSet := fun c => fragmentSet c || c ∈ ['#', '?', '^', '\x7b', '\x7d']

def userSet : EncodeSet :=
  fun c => pathSet c || c ∈ ['/', ':', ';', '=', '@', '[', '\\', ']', '|']

/-! ## decoding -/

def decode : List Char → List UInt8
  | '%' :: a :: b :: rest =>
    match Hex.val? a, Hex.val? b with
    | some x, some y => (16 * x + y).toUInt8 :: decode rest
    | _, _ => '%'.toNat.toUInt8 :: decode (a :: b :: rest)
  | c :: rest => String.utf8EncodeChar c ++ decode rest
  | [] => []

/-- the text of a sequence of bytes, if it is one -/
def text? (bytes : List UInt8) : Option (List Char) :=
  (String.fromUTF8? ⟨bytes.toArray⟩).map String.toList

end QueryDesk.Percent
