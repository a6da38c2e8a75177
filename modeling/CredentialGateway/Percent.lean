import CredentialGateway.Text.Hex

/-!
# Percent-encoding

A character of the given set is written as the bytes of its UTF-8 form, each as `%` and two
digits; every other character stands for itself.  Each part of a URL has its own set.  All sets
hold the controls and everything beyond ASCII; none holds `%`, so what is encoded already stays.

    encode set t = t                           if no character of t is in the set
    encode set (s ++ t) = encode set s ++ encode set t
-/

namespace CredentialGateway.Percent

/-! ## Algorithm -/

/-- Controls, DEL and everything beyond ASCII. -/
def controlSet (c : Char) : Bool := c.toNat < 0x20 || 0x7F ≤ c.toNat

def fragmentSet (c : Char) : Bool := controlSet c || [' ', '"', '<', '>', '\x60'].contains c

def pathSet (c : Char) : Bool := fragmentSet c || ['#', '?', '\x7b', '\x7d'].contains c

def userinfoSet (c : Char) : Bool :=
  pathSet c || ['/', ':', ';', '=', '@', '[', '\\', ']', '^', '|'].contains c

/-- Queries of some schemes encode the single quote too. -/
def querySet (special : Bool) (c : Char) : Bool :=
  controlSet c || [' ', '"', '#', '<', '>'].contains c || (special && c == '\x27')

def encodeChar (set : Char → Bool) (c : Char) : Text :=
  if set c then (String.utf8EncodeChar c).flatMap fun b => '%' :: Hex.ofByte b else [c]

def encode (set : Char → Bool) (t : Text) : Text := t.flatMap (encodeChar set)

/-- The bytes that a text stands for: `%` with two digits is one byte, all else its UTF-8 form. -/
def decode : Text → Bytes
  | [] => []
  | '%' :: a :: b :: rest =>
    match Hex.digit? a, Hex.digit? b with
    | some x, some y => UInt8.ofNat (16 * x + y) :: decode rest
    | _, _ => 0x25 :: decode (a :: b :: rest)
  | c :: rest => String.utf8EncodeChar c ++ decode rest

/-! ## Lemmas -/

@[simp] theorem encode_nil (set : Char → Bool) : encode set [] = [] := rfl

@[simp] theorem encode_append (set : Char → Bool) (s t : Text) :
    encode set (s ++ t) = encode set s ++ encode set t := List.flatMap_append

theorem encode_of_forall {set : Char → Bool} {t : Text} (h : ∀ c ∈ t, set c = false) :
    encode set t = t := by
  induction t with
  | nil => rfl
  | cons c t ih =>
    have hc : encodeChar set c = [c] := by simp [encodeChar, h c (by simp)]
    have ht := ih fun x hx => h x (by simp [hx])
    unfold encode at ht ⊢
    rw [List.flatMap_cons, hc, ht]
    rfl

end CredentialGateway.Percent
