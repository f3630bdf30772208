import PaymentGateway.Proofs.RequestCheck.Logins
import PaymentGateway.Settings.File

/-!
# Logins from settings

Settings that are read state a merchant id and a password that are not blank.  That is all the check
of requests asks of them, but for one thing: a settings file can put a line break into a text, and
nothing looks for it before the first request.
-/

namespace PaymentGateway

namespace Settings

theorem ne_empty_of_check {settings : Settings} (h : settings.check = .ok ()) :
    settings.credentials.merchantId ≠ "" ∧ settings.credentials.password ≠ "" := by
  have hvisible : ∀ entry ∈ settings.texts, entry.2 ≠ "" := by
    unfold check at h
    split at h
    · cases h
    · rename_i hblank
      intro entry hentry hempty
      have hfound : ¬ Text.isBlankText entry.2 = true := List.find?_eq_none.mp hblank entry hentry
      rw [hempty] at hfound
      exact hfound rfl
  exact ⟨hvisible ("merchant_id", _) (.head _), hvisible ("password", _) (.tail _ (.head _))⟩

theorem read_eq_ok_iff {text : String} {settings : Settings} :
    read text = .ok settings ↔
      (Toml.read? text).bind ofEntries? = some settings ∧ settings.check = .ok () := by
  unfold read
  cases (Toml.read? text).bind ofEntries? with
  | none => exact ⟨nofun, fun h => nomatch h.1⟩
  | some stated =>
    show (stated.check.map fun _ => stated) = .ok settings ↔ _
    cases hcheck : stated.check with
    | error fault =>
      refine ⟨nofun, ?_⟩
      rintro ⟨hstated, hok⟩
      cases hstated
      cases hcheck.symm.trans hok
    | ok =>
      constructor
      · intro h
        cases h
        exact ⟨rfl, hcheck⟩
      · rintro ⟨hstated, -⟩
        cases hstated
        rfl

/-- What the check of a request makes of the login that settings state. -/
structure LoginChecked (settings : Settings) (request : Request) (call : Call)
    (token : Option String) : Prop where
  present : ∀ field, RequestCheck.check (request.fields settings.credentials (call.overlay token)) =
    .error (.missingField field) → RequestCheck.IsBesideLogin field
  alike : SingleLine settings.merchantId → SingleLine settings.password →
    ∀ other : Credentials, other.Sendable →
      RequestCheck.check (request.fields settings.credentials (call.overlay token)) =
        RequestCheck.check (request.fields other (call.overlay token))
  missing : ∀ other : Credentials, other.Sendable → ∀ field,
    RequestCheck.check (request.fields other (call.overlay token)) = .error (.missingField field) →
      RequestCheck.check (request.fields settings.credentials (call.overlay token)) =
        .error (.missingField field)
  broken : ¬ (SingleLine settings.merchantId ∧ SingleLine settings.password) →
    ∀ other : Credentials, other.Sendable →
      (∀ field, RequestCheck.check (request.fields other (call.overlay token)) ≠
        .error (.missingField field)) →
      RequestCheck.check (request.fields settings.credentials (call.overlay token)) =
        .error (.lineBreak
          (if SingleLine settings.merchantId then "pg_password" else "pg_merchant_id"))

/-- The login of settings that are read is checked like any other if it keeps to its lines.  If it
does not, it is named behind every missing field. -/
theorem loginChecked_of_read {text : String} {settings : Settings}
    (h : read text = .ok settings) (request : Request) (call : Call) (token : Option String) :
    settings.LoginChecked request call token := by
  obtain ⟨hmerchant, hpassword⟩ := ne_empty_of_check (read_eq_ok_iff.mp h).2
  -- Either every login misses the same field, or only the lines are left to check.
  rcases RequestCheck.missing_or_checkLines request call token with
    ⟨field, hbeside, hmissing⟩ | hlines
  · have hstated := hmissing settings.credentials hmerchant hpassword
    have hother (other : Credentials) (hsendable : other.Sendable) :=
      hmissing other hsendable.merchantId_ne_empty hsendable.password_ne_empty
    constructor
    · intro named hnamed
      cases hstated.symm.trans hnamed
      exact hbeside
    · intro _ _ other hsendable
      rw [hstated, hother other hsendable]
    · intro other hsendable named hnamed
      cases (hother other hsendable).symm.trans hnamed
      exact hstated
    · intro _ other hsendable hnone
      exact absurd (hother other hsendable) (hnone field)
  · have hstated := hlines settings.credentials hmerchant hpassword
    have hother (other : Credentials) (hsendable : other.Sendable) :=
      (hlines other hsendable.merchantId_ne_empty hsendable.password_ne_empty).trans
        (RequestCheck.checkLines_of_sendable request call token hsendable)
    constructor
    · intro named hnamed
      rw [hstated] at hnamed
      exact absurd hnamed (RequestCheck.checkLines_ne_missingField _ request call token named)
    · intro hmerchantLine hpasswordLine other hsendable
      have hsettings : settings.credentials.Sendable :=
        ⟨hmerchant, hpassword, hmerchantLine, hpasswordLine⟩
      rw [hother settings.credentials hsettings, hother other hsendable]
    · intro other hsendable named hnamed
      rw [hother other hsendable] at hnamed
      exact absurd hnamed (RequestCheck.checkFraming_ne_missingField _ named)
    · intro hbroken other _ _
      rw [hstated]
      exact RequestCheck.checkLines_of_broken request call token hbroken

def paddedFile : String :=
  "[gateway]\nmerchant_id = \"\"\"\n  12 34\"\"\"\npassword = ' p '\nhost = \"h\"\n"

def brokenFile : String :=
  "[gateway]\nmerchant_id = \"12\\n34\"\npassword = \"secret\"\nhost = \"h\"\n"

def plainCapture : Request :=
  .modification .capture .card "T-1" none

theorem sendable_merchant : Credentials.Sendable ⟨"merchant", "secret"⟩ :=
  ⟨by decide, by decide, by decide, by decide⟩

theorem read_paddedFile :
    read paddedFile = .ok ⟨"  12 34", " p ", "h", 6050, true, 10, 60⟩ :=
  read_eq_ok_iff.mpr ⟨by decide +kernel, rfl⟩

theorem read_brokenFile :
    read brokenFile = .ok ⟨"12\n34", "secret", "h", 6050, true, 10, 60⟩ :=
  read_eq_ok_iff.mpr ⟨by decide +kernel, rfl⟩

theorem loginChecked_of_read_files :
    ∃ padded broken, read paddedFile = .ok padded ∧ read brokenFile = .ok broken ∧
      Credentials.Sendable ⟨"merchant", "secret"⟩ ∧
      (∀ call token, RequestCheck.check (plainCapture.fields padded.credentials
          (Call.overlay call token)) =
        RequestCheck.check (plainCapture.fields ⟨"merchant", "secret"⟩ (call.overlay token))) ∧
      RequestCheck.check (plainCapture.fields broken.credentials
          (RequestCheck.framedUserCall.overlay none)) = .error (.lineBreak "pg_merchant_id") := by
  have haccepted : RequestCheck.check (plainCapture.fields ⟨"merchant", "secret"⟩
      (RequestCheck.framedUserCall.overlay none)) = .ok () := rfl
  refine ⟨_, _, read_paddedFile, read_brokenFile, sendable_merchant, ?_, ?_⟩
  · intro call token
    exact (loginChecked_of_read read_paddedFile plainCapture call token).alike (by decide)
      (by decide) _ sendable_merchant
  · refine (loginChecked_of_read read_brokenFile plainCapture RequestCheck.framedUserCall
      none).broken (by decide) _ sendable_merchant ?_
    intro field hmissing
    cases haccepted.symm.trans hmissing

/-- Settings that are read can make every request invalid: nothing forbids a line break in them. -/
theorem not_alike_of_brokenFile :
    ∃ settings, read brokenFile = .ok settings ∧ Credentials.Sendable ⟨"merchant", "secret"⟩ ∧
      RequestCheck.check (plainCapture.fields settings.credentials
          (RequestCheck.framedUserCall.overlay none)) = .error (.lineBreak "pg_merchant_id") ∧
      RequestCheck.check (plainCapture.fields ⟨"merchant", "secret"⟩
          (RequestCheck.framedUserCall.overlay none)) = .ok () :=
  ⟨_, read_brokenFile, sendable_merchant, rfl, rfl⟩

end Settings

end PaymentGateway
