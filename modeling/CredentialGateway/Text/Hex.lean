import CredentialGateway.Text

/-!
# Numbers to base 16

Digits are read in either case.  A byte is written with two digits in upper case, a number with
as many digits as it needs, in lower case.

    number? (ofNat n) = some n      (number?_ofNat)
-/

namespace CredentialGateway.Hex

/-- The value of a digit. -/
def digit? (c : Char) : Option Nat :=
  if '0' ≤ c && c ≤ '9' then some (c.toNat - 48)
  else if 'a' ≤ c && c ≤ 'f' then some (c.toNat - 87)
  else if 'A' ≤ c && c ≤ 'F' then some (c.toNat - 55)
  else none

/-- The number that a non-empty run of digits writes. -/
def number? (t : Text) : Option Nat :=
  if t = [] then none
  else t.foldlM (fun n c => (digit? c).map (16 * n + ·)) 0

/-- The digits of a number. -/
def ofNat (n : Nat) : Text := Nat.toDigits 16 n

/-- The two digits of a byte. -/
def ofByte (b : UInt8) : Text :=
  [(Nat.digitChar (b.toNat / 16)).toUpper, (Nat.digitChar (b.toNat % 16)).toUpper]

/-! ## Lemmas -/

theorem digit?_digitChar : ∀ d, d < 16 → digit? (Nat.digitChar d) = some d := by decide

theorem digit?_toUpper_digitChar : ∀ d, d < 16 → digit? (Nat.digitChar d).toUpper = some d := by
  decide

theorem digit?_of_le {c : Char} (h : 0x7F ≤ c.toNat) : digit? c = none := by
  have above {d : Char} (hd : d.toNat < 0x7F) : ¬ c ≤ d := by
    rw [Char.le_def, UInt32.le_iff_toNat_le]
    show ¬ c.toNat ≤ d.toNat
    omega
  simp [digit?, above (d := '9') (by decide), above (d := 'f') (by decide),
    above (d := 'F') (by decide)]

theorem foldlM_ofNat (n : Nat) :
    (ofNat n).foldlM (fun n c => (digit? c).map (16 * n + ·)) 0 = some n := by
  unfold ofNat
  induction n using Nat.strongRecOn with
  | ind n ih =>
    by_cases h : n < 16
    · rw [Nat.toDigits_of_lt_base h]
      simp [digit?_digitChar n h]
    · rw [Nat.toDigits_of_base_le (by omega) (by omega), List.foldlM_append,
        ih (n / 16) (by omega)]
      simp [digit?_digitChar _ (Nat.mod_lt n (by decide)), Nat.div_add_mod]

/-- A number reads back from its digits. -/
theorem number?_ofNat (n : Nat) : number? (ofNat n) = some n := by
  rw [number?, if_neg (by exact Nat.toDigits_ne_nil), foldlM_ofNat]

theorem exists_digitChar_of_mem_ofNat {n : Nat} {c : Char} (h : c ∈ ofNat n) :
    ∃ d < 16, c = Nat.digitChar d := by
  unfold ofNat at h
  induction n using Nat.strongRecOn with
  | ind n ih =>
    by_cases hn : n < 16
    · rw [Nat.toDigits_of_lt_base hn, List.mem_singleton] at h
      exact ⟨n, hn, h⟩
    · rw [Nat.toDigits_of_base_le (by omega) (by omega), List.mem_append,
        List.mem_singleton] at h
      rcases h with h | h
      · exact ih (n / 16) (by omega) h
      · exact ⟨n % 16, Nat.mod_lt n (by decide), h⟩

end CredentialGateway.Hex
