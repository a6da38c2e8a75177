import CredentialGateway.Proofs.OutboundHeaders
import CredentialGateway.Proofs.QuotedBytes

/-!
# What is reported about the credential

A credential is read from a variable and put into a header.  If the variable holds a text, what is
reported names the variable and says whether the text fits into a header, and nothing else.  If it
holds no text, the reason shows the value between quotes, and the value can be told from it.

    c.header.2 = [] ↔ the secret fits                                   (reported_header)
    the reports of two alike values are equal ↔ they are text, or they are one value
                                                                        (reports_eq_iff)
-/

namespace CredentialGateway.Credential

/-- The secret fits into a header value. -/
def fits (c : Credential) : Bool := c.secret.utf8.all isFieldByte

/-- What is reported from reading a variable to the header that is made of it. -/
def reports (name : Text) (value : Option Bytes) : List Log.Event :=
  let (credential, loaded) := ofVariable name value
  loaded :: credential.header.2

/-- The values agree in whether they are text, whether they are empty, and whether a header value
can hold them. -/
structure Alike (a b : Bytes) : Prop where
  text : (Bytes.text? a).isSome = (Bytes.text? b).isSome
  empty : a = [] ↔ b = []
  fits : (HeaderValue.ofBytes? a).isSome = (HeaderValue.ofBytes? b).isSome

/-! ## Making the header -/

/-- A secret that fits is put into a header without a word. -/
theorem reported_header (c : Credential) :
    c.header.2 = if c.fits = true then [] else [.credentialUnfit] := by
  rcases c.header_cases with ⟨hfit, v, -, h⟩ | ⟨hfit, h⟩
  · rw [h, fits, if_pos hfit]
  · rw [h, fits, if_neg (by simp [hfit])]

/-! ## Reading the variable -/

/-- Of a text only the name of the variable is reported, and whether the text fits. -/
theorem reports_of_text {name t : Text} {value : Bytes} (hn : isVariableName name = true)
    (ht : Bytes.text? value = some t) : reports name (some value) =
      .credentialLoaded name ::
        if value.all isFieldByte = true then [] else [.credentialUnfit] := by
  have hv : t.utf8 = value := Bytes.utf8_of_text? ht
  simp only [reports, ofVariable, readVariable, hn, ht, if_true, reported_header, fits, hv]

/-- What is no text is shown as the reason. -/
theorem reports_of_stray {name : Text} {value : Bytes} (hn : isVariableName name = true)
    (ht : Bytes.text? value = none) : reports name (some value) =
      [.credentialUnavailable name (VariableError.notText value).message] := by
  have hempty : (⟨[]⟩ : Credential).header.2 = [] := by
    rw [reported_header]
    exact if_pos rfl
  simp only [reports, ofVariable, readVariable, hn, ht, if_true, hempty]

/-- Under a name that no variable has, nothing is read. -/
theorem reports_of_name {name : Text} (hn : isVariableName name = false) (a b : Bytes) :
    reports name (some a) = reports name (some b) := by
  simp only [reports, ofVariable, readVariable, hn, Bool.false_eq_true, if_false]

theorem message_notText (value : Bytes) : (VariableError.notText value).message =
    "environment variable was not valid unicode: ".toList ++ Text.quotedBytes value := rfl

/-- The reason that is reported for what is no text tells it. -/
theorem reports_stray_inj {name : Text} {a b : Bytes} (hn : isVariableName name = true)
    (ha : Bytes.text? a = none) (hb : Bytes.text? b = none) :
    reports name (some a) = reports name (some b) ↔ a = b := by
  constructor
  · intro h
    rw [reports_of_stray hn ha, reports_of_stray hn hb] at h
    have hreason := (Log.Event.credentialUnavailable.inj (List.cons.inj h).1).2
    rw [message_notText, message_notText] at hreason
    generalize "environment variable was not valid unicode: ".toList = lead at hreason
    exact Text.quotedBytes_inj.1 (List.append_cancel_left hreason)
  · rintro rfl
    rfl

/-- The reports on two values that are alike are the same exactly if the values are text, or are
one value, or if no variable has the name. -/
theorem reports_eq_iff {a b : Bytes} (h : Alike a b) (name : Text) :
    reports name (some a) = reports name (some b) ↔
      isVariableName name = false ∨ (Bytes.text? a).isSome = true ∨ a = b := by
  cases hn : isVariableName name with
  | false => simp [reports_of_name hn a b]
  | true =>
    cases ha : Bytes.text? a with
    | none =>
      have hb : Bytes.text? b = none := by
        rw [← Option.isNone_iff_eq_none, ← Option.not_isSome, ← h.text, ha]
        rfl
      simp [reports_stray_inj hn ha hb]
    | some t =>
      obtain ⟨u, hb⟩ : ∃ u, Bytes.text? b = some u := by
        rw [← Option.isSome_iff_exists, ← h.text, ha]
        rfl
      have hfits : a.all isFieldByte = b.all isFieldByte := by
        rw [← HeaderValue.isSome_ofBytes?, h.fits, HeaderValue.isSome_ofBytes?]
      simp [reports_of_text hn ha, reports_of_text hn hb, hfits]

/-- Two secrets that fit into no header. -/
theorem reports_eq_iff_text :
    Alike (Text.utf8 "sk-1\n") (Text.utf8 "\nsk-22") ∧
      (reports "OPENAI_API_KEY" (some (Text.utf8 "sk-1\n")) =
          reports "OPENAI_API_KEY" (some (Text.utf8 "\nsk-22")) ↔
        isVariableName "OPENAI_API_KEY" = false ∨
          (Bytes.text? (Text.utf8 "sk-1\n")).isSome = true ∨
          Text.utf8 "sk-1\n" = Text.utf8 "\nsk-22") := by
  have h : Alike (Text.utf8 "sk-1\n") (Text.utf8 "\nsk-22") :=
    ⟨by rw [Bytes.text?_utf8, Bytes.text?_utf8]; rfl, by decide, by decide⟩
  exact ⟨h, reports_eq_iff h "OPENAI_API_KEY"⟩

/-- One byte that belongs to no character, and the rest of the secret is in the log. -/
theorem reports_ne_stray :
    Alike (Text.utf8 "sk-1" ++ [0xFF]) (Text.utf8 "sk-2" ++ [0xFF]) ∧
      0 ∉ Text.utf8 "sk-1" ++ [0xFF] ∧ 0 ∉ Text.utf8 "sk-2" ++ [0xFF] ∧
      reports "OPENAI_API_KEY" (some (Text.utf8 "sk-1" ++ [0xFF])) = [.credentialUnavailable
        "OPENAI_API_KEY" "environment variable was not valid unicode: \"sk-1\\xFF\""] ∧
      reports "OPENAI_API_KEY" (some (Text.utf8 "sk-1" ++ [0xFF])) ≠
        reports "OPENAI_API_KEY" (some (Text.utf8 "sk-2" ++ [0xFF])) := by
  have hname : isVariableName "OPENAI_API_KEY" = true := by decide
  have h1 : Bytes.text? (Text.utf8 "sk-1" ++ [0xFF]) = none := by cbv
  have h2 : Bytes.text? (Text.utf8 "sk-2" ++ [0xFF]) = none := by cbv
  have hquoted : Text.quotedBytes (Text.utf8 "sk-1" ++ [0xFF]) = "\"sk-1\\xFF\"" := by cbv
  refine ⟨⟨by rw [h1, h2], by decide, by decide⟩, by decide, by decide, ?_, ?_⟩
  · rw [reports_of_stray hname h1, message_notText, hquoted]
    rfl
  · exact fun h => absurd ((reports_stray_inj hname h1 h2).1 h) (by decide)

end CredentialGateway.Credential
