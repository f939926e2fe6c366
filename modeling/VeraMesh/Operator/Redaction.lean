import VeraMesh.Lib.Removal
import VeraMesh.Operator.Session

/-!
# Redaction

When the service answers with an HTTP error, the operator tells its body, with `<redacted>` in place
of the API key and of the tunnel id. Neither secret is in what it tells, and nothing else of the
body is lost (`httpError_redacted`).
-/

namespace VeraMesh.Operator

open Python Except Occurrence

/-- What is put in place of a secret. -/
def redactionMark : List Char := "<redacted>".toList

/-- The text with the mark in place of the secret. -/
structure Redacts (secret text told : List Char) : Prop where
  gone : ¬secret <:+: told
  /-- The text in pieces, which are told as they are. -/
  pieces : ∃ pieces : List (List Char),
    text = secret.intercalate pieces ∧ told = redactionMark.intercalate pieces

theorem redacts_replace {secret : List Char} (hsecret : secret ≠ [])
    (hapart : Apart secret redactionMark) (text : List Char) :
    Redacts secret text (replace secret redactionMark text) :=
  ⟨not_isInfix_replace_self hsecret hapart text,
    _, (intercalate_segments hsecret text).symm, replace_eq_intercalate_segments hsecret text⟩

/-- A text that is not blank is not empty. -/
theorem ne_nil_of_isBlank {s : String} (h : isBlank s = false) : s.toList ≠ [] := by
  intro hnil
  rw [isBlank, hnil] at h
  cases h

namespace OperatorConfig

variable {config : OperatorConfig}

/-- A configuration that passes has both secrets. -/
theorem secrets_of_validate (h : config.validate = .ok ()) :
    config.apiKey.toList ≠ [] ∧ config.tunnelId.toList ≠ [] := by
  obtain ⟨_, hkey, h⟩ := bind_eq_ok.mp h
  obtain ⟨_, htunnel, -⟩ := bind_eq_ok.mp h
  exact ⟨ne_nil_of_isBlank (require_eq_ok.mp hkey), ne_nil_of_isBlank (require_eq_ok.mp htunnel)⟩

/-- The two replacements. -/
theorem toList_redactText (hkey : config.apiKey.toList ≠ []) (htunnel : config.tunnelId.toList ≠ [])
    (text : String) :
    (config.redactText text).toList =
      replace config.tunnelId.toList redactionMark
        (replace config.apiKey.toList redactionMark text.toList) := by
  have hne : ∀ {s : String}, s.toList ≠ [] → s ≠ "" := fun hs h => hs (by rw [h]; rfl)
  rw [redactText, List.foldl_cons, List.foldl_cons, List.foldl_nil, if_neg (hne hkey),
    if_neg (hne htunnel)]
  simp only [String.toList_ofList]
  rfl

/-- The second replacement does not bring the API key back. -/
theorem redacted_redactText (h : config.validate = .ok ())
    (hkey : Apart config.apiKey.toList redactionMark)
    (htunnel : Apart config.tunnelId.toList redactionMark) (text : String) :
    ∃ between, Redacts config.apiKey.toList text.toList between ∧
      Redacts config.tunnelId.toList between (config.redactText text).toList ∧
      ¬config.apiKey.toList <:+: (config.redactText text).toList := by
  obtain ⟨hkeyNe, htunnelNe⟩ := secrets_of_validate h
  have hbetween := redacts_replace hkeyNe hkey text.toList
  refine ⟨_, hbetween, ?_⟩
  rw [toList_redactText hkeyNe htunnelNe]
  exact ⟨redacts_replace htunnelNe htunnel _,
    not_isInfix_replace htunnelNe hkeyNe hkey hbetween.gone⟩

end OperatorConfig

/-- Whatever the body of an HTTP error is: what the operator tells of it has neither secret, and is
the body with the mark in place of first the API key and then the tunnel id. -/
theorem httpError_redacted (setup : OperatorSetup) (h : setup.config.validate = .ok ())
    (hkey : Apart setup.config.apiKey.toList redactionMark)
    (htunnel : Apart setup.config.tunnelId.toList redactionMark) (code : ℤ) (body : String) :
    ∃ told : String, setup.readAnswer (.httpError code body) = .error (.operator
        ("OpenAI Responses API returned HTTP " ++ toString code ++ ": " ++ told)) ∧
      ¬setup.config.apiKey.toList <:+: told.toList ∧
      ∃ between, Redacts setup.config.apiKey.toList body.toList between ∧
        Redacts setup.config.tunnelId.toList between told.toList := by
  obtain ⟨between, hfirst, hsecond, hgone⟩ :=
    OperatorConfig.redacted_redactText h hkey htunnel body
  exact ⟨_, rfl, hgone, between, hfirst, hsecond⟩

/-- A key and a tunnel id as they are handed out. -/
def exampleSetup : OperatorSetup where
  config := ⟨"sk-7f3a", "tunnel_19", "gpt", "veramesh", "read", false, .finite 180⟩
  instructions := ""
  loads _ := .error ⟨.jsonDecodeError, ""⟩

theorem httpError_redacted_example :
    ¬"sk-7f3a".toList <:+: (exampleSetup.config.redactText "key sk-7f3a on tunnel_19").toList := by
  have hvalid : exampleSetup.config.validate = .ok () := rfl
  have hapart : ∀ word : List Char, '<' ∉ word → '>' ∉ word → ¬word <:+: "redacted".toList →
      Apart word redactionMark := fun word hfirst hlast hmid => ⟨_, _, _, rfl, hfirst, hlast, hmid⟩
  obtain ⟨told, htold, hgone, -⟩ := httpError_redacted exampleSetup hvalid
    (hapart _ (by decide) (by decide) (by decide)) (hapart _ (by decide) (by decide) (by decide))
    401 "key sk-7f3a on tunnel_19"
  have hsame : exampleSetup.config.redactText "key sk-7f3a on tunnel_19" = told := by
    injection htold with htold
    injection htold with htold
    exact String.append_right_inj _ |>.mp htold
  rw [hsame]
  exact hgone

end VeraMesh.Operator
