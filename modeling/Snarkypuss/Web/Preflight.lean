import Snarkypuss.Web.Credentials

/-!
# The preflight check of the htpasswd file

`_auth_check` of `preflight.py` reads the file with a reader of its own, which knows neither the
bound on its size nor that hashes have to be ASCII.

## Main definitions

* `Auth.authCheck`: the check
* `Auth.LooksValid`: the contents that it passes
* `Auth.VerdictsAgree`: its verdict is that of the service, and no login fails for the file's sake

## Main results

* `Auth.readRecords_isOk`: the contents that the service can read
* `Auth.verdicts_agree_iff`: when the verdicts agree
-/

namespace Snarkypuss.Auth

open Python

inductive CheckStatus
  | pass
  | warn
  | fail
  | skip
  deriving DecidableEq

structure CheckResult where
  checkId : String
  status : CheckStatus
  message : String
  deriving DecidableEq

/-- A line that `_auth_check` takes for a record. -/
def isValidLine (line : String) : Bool :=
  match partition ':' line with
  | none => false
  | some (username, passwordHash) => username ≠ "" && hasHashPrefix passwordHash

/-- `_auth_check`. The text of the exception about a file that cannot be read is a parameter. -/
def authCheck (path unreadable : String) : AuthFile → CheckResult
  | .unreadable _ | .special => ⟨"auth.syntax", .fail, s!"cannot read {path}: {unreadable}"⟩
  | .regular content =>
    match recordLines content with
    | none => ⟨"auth.syntax", .fail, s!"cannot read {path}: {unreadable}"⟩
    | some records =>
      if records = [] ∨ !records.all isValidLine then
        ⟨"auth.syntax", .fail, "auth file needs at least one valid bcrypt record"⟩
      else ⟨"auth.syntax", .pass, s!"auth file contains {records.length} record(s)"⟩

section Preflight

variable {path : String} {bcrypt : Bcrypt} {content : ByteArray}

/-- The hashes that stand in the record lines of a file. -/
def storedHashes (content : ByteArray) : List String :=
  ((recordLines content).getD []).filterMap fun line => (partition ':' line).map Prod.snd

/-- The content is text with record lines, and each of them looks like a record. -/
def LooksValid (content : ByteArray) : Prop :=
  ∃ lines, recordLines content = some lines ∧ lines ≠ [] ∧ ∀ line ∈ lines, isValidLine line = true

/-- The preflight passes the files that look valid. -/
theorem authCheck_pass_iff {unreadable : String} :
    (authCheck path unreadable (.regular content)).status = .pass ↔ LooksValid content := by
  unfold LooksValid
  cases hlines : recordLines content with
  | none => simp [authCheck, hlines]
  | some lines =>
    simp only [authCheck, hlines, Option.some.injEq, exists_eq_left']
    by_cases hvalid : lines = [] ∨ (!lines.all isValidLine) = true
    · rw [if_pos hvalid]
      simp only [reduceCtorEq, false_iff, not_and]
      intro hne hall
      simp [hne, List.all_eq_true.mpr hall] at hvalid
    · rw [if_neg hvalid]
      simpa using hvalid

/-- A record line is read when it looks valid and its hash is ASCII. -/
theorem readRecord_isOk {line : String} :
    (∃ record, readRecord path line = .ok record) ↔
      isValidLine line = true ∧ ∀ field ∈ partition ':' line, isAscii field.2 = true := by
  unfold readRecord isValidLine
  cases partition ':' line with
  | none => simp
  | some field =>
    simp only [Option.mem_def, Option.some.injEq, forall_eq']
    by_cases hvalid : field.1 = "" ∨ (!hasHashPrefix field.2) = true
    · rw [if_pos hvalid]
      rcases hvalid with h | h <;> simp_all
    · rw [if_neg hvalid]
      by_cases hascii : isAscii field.2 = true
      · simp only [hascii]
        simpa using hvalid
      · simp [hascii]

theorem mapM_readRecord_isOk {lines : List String} :
    (∃ records, lines.mapM (readRecord path) = .ok records) ↔
      ∀ line ∈ lines, ∃ record, readRecord path line = .ok record := by
  induction lines with
  | nil => simpa using ⟨[], rfl⟩
  | cons line lines ih =>
    rw [List.forall_mem_cons, ← ih]
    simp only [List.mapM_cons, bind_eq_ok]
    constructor
    · rintro ⟨_, record, hrecord, records, hrecords, -⟩
      exact ⟨⟨record, hrecord⟩, records, hrecords⟩
    · rintro ⟨⟨record, hrecord⟩, records, hrecords⟩
      exact ⟨record :: records, record, hrecord, records, hrecords, rfl⟩

theorem mapM_ne_nil {lines : List String} {records : List Record}
    (h : lines.mapM (readRecord path) = .ok records) : records = [] ↔ lines = [] := by
  cases lines with
  | nil =>
    obtain rfl := Except.ok.inj h
    simp
  | cons line lines =>
    simp only [List.mapM_cons, bind_eq_ok] at h
    obtain ⟨record, -, records', -, h⟩ := h
    obtain rfl := Except.ok.inj h
    simp

theorem forall_storedHashes {lines : List String} (h : recordLines content = some lines)
    {P : String → Prop} :
    (∀ passwordHash ∈ storedHashes content, P passwordHash) ↔
      ∀ line ∈ lines, ∀ field ∈ partition ':' line, P field.2 := by
  simp only [storedHashes, h, Option.getD_some, List.mem_filterMap, Option.map_eq_some_iff]
  constructor
  · intro hall line hline field hfield
    exact hall field.2 ⟨line, hline, field, hfield, rfl⟩
  · rintro hall _ ⟨line, hline, field, hfield, rfl⟩
    exact hall line hline field hfield

/-- **The service reads a file** that looks valid to the preflight, is not too large, and whose
hashes are ASCII. -/
theorem readRecords_isOk :
    (∃ records, readRecords path (.regular content) = .ok records) ↔
      LooksValid content ∧ content.size ≤ maxAuthFileSize ∧
        ∀ passwordHash ∈ storedHashes content, isAscii passwordHash = true := by
  unfold LooksValid
  simp only [readRecords]
  by_cases hsize : maxAuthFileSize < content.size
  · rw [if_pos hsize]
    simp [Nat.not_le.mpr hsize]
  · rw [if_neg hsize]
    simp only [Nat.le_of_not_lt hsize, true_and]
    cases hlines : recordLines content with
    | none => simp
    | some lines =>
      simp only [forall_storedHashes hlines, bind_eq_ok, Option.some.injEq, exists_eq_left']
      have hboth : (∀ line ∈ lines, ∃ record, readRecord path line = .ok record) ↔
          (∀ line ∈ lines, isValidLine line = true) ∧
            ∀ line ∈ lines, ∀ field ∈ partition ':' line, isAscii field.2 = true := by
        simp only [readRecord_isOk, ← forall₂_and]
      constructor
      · rintro ⟨records, records', hrecords, h⟩
        split at h
        · cases h
        rename_i hne
        rw [mapM_ne_nil hrecords] at hne
        obtain ⟨hvalid, hascii⟩ := hboth.mp (mapM_readRecord_isOk.mp ⟨records', hrecords⟩)
        exact ⟨⟨hne, hvalid⟩, hascii⟩
      · rintro ⟨⟨hne, hvalid⟩, hascii⟩
        obtain ⟨records, hrecords⟩ := mapM_readRecord_isOk.mpr (hboth.mpr ⟨hvalid, hascii⟩)
        refine ⟨records, records, hrecords, ?_⟩
        rw [if_neg (mt (mapM_ne_nil hrecords).mp hne)]
        rfl

/-- The hashes of the records are those that stand in the lines. -/
theorem mem_storedHashes {records : List Record}
    (h : readRecords path (.regular content) = .ok records) :
    ∀ record ∈ records, ∃ passwordHash ∈ storedHashes content,
      record.passwordHash = passwordHash.toByteArray := by
  simp only [readRecords] at h
  split at h
  · cases h
  split at h
  · cases h
  rename_i lines hlines
  obtain ⟨records', hrecords, h⟩ := bind_eq_ok.mp h
  split at h
  · cases h
  obtain rfl := Except.ok.inj h
  have hread : ∀ (lines : List String) (records : List Record),
      lines.mapM (readRecord path) = .ok records →
        ∀ record ∈ records, ∃ line ∈ lines, readRecord path line = .ok record := by
    intro lines
    induction lines with
    | nil =>
      intro records h
      obtain rfl := Except.ok.inj h
      simp
    | cons line lines ih =>
      intro records h
      simp only [List.mapM_cons, bind_eq_ok] at h
      obtain ⟨record, hrecord, rest, hrest, h⟩ := h
      obtain rfl := Except.ok.inj h
      intro r hr
      rcases List.mem_cons.mp hr with rfl | hr
      · exact ⟨line, List.mem_cons_self, hrecord⟩
      · obtain ⟨line', hline', hr⟩ := ih rest hrest r hr
        exact ⟨line', List.mem_cons_of_mem _ hline', hr⟩
  intro record hrecord
  obtain ⟨line, hline, hrecord⟩ := hread lines records' hrecords record hrecord
  unfold readRecord at hrecord
  split at hrecord
  · cases hrecord
  rename_i username passwordHash hfield
  split at hrecord
  · cases hrecord
  split at hrecord
  · cases hrecord
  obtain rfl := Except.ok.inj hrecord
  refine ⟨passwordHash, ?_, rfl⟩
  simp only [storedHashes, hlines, Option.getD_some, List.mem_filterMap]
  exact ⟨line, hline, by rw [hfield]; rfl⟩

variable (path bcrypt content) in
/-- The preflight passes a file exactly when the service can read it, and then no login with it
fails for the sake of the file, as long as bcrypt can read its hashes. -/
structure VerdictsAgree (unreadable : String) : Prop where
  records : (authCheck path unreadable (.regular content)).status = .pass ↔
    ∃ records, readRecords path (.regular content) = .ok records
  logins : (authCheck path unreadable (.regular content)).status = .pass →
    (∀ passwordHash ∈ storedHashes content, bcrypt.wellFormed passwordHash.toByteArray = true) →
      ∀ username password,
        ¬ RaisesAuthFile (verification path bcrypt (.regular content) username password)

/-- There are texts of every size. -/
theorem exists_utf8ByteSize (n : Nat) : ∃ s : String, s.utf8ByteSize = n := by
  induction n with
  | zero => exact ⟨"", rfl⟩
  | succ n ih =>
    obtain ⟨s, hs⟩ := ih
    refine ⟨s.push 'a', ?_⟩
    rw [String.utf8ByteSize_push, hs]
    rfl

/-- A bcrypt with a longest password has one that is too long. -/
theorem exists_not_admits {n : Nat} (h : bcrypt.limit = some n) :
    ∃ password : String, ¬ bcrypt.Admits password.toByteArray := by
  obtain ⟨password, hpassword⟩ := exists_utf8ByteSize (n + 1)
  refine ⟨password, fun hadmits => ?_⟩
  have hsize := hadmits n h
  rw [String.size_toByteArray] at hsize
  omega

/-- **When the preflight's verdict is that of the service.** A file that looks valid to the
preflight has to be small enough, with hashes in ASCII, and bcrypt has to take passwords of any
length, unless it cannot read some of the hashes anyway. -/
theorem verdicts_agree_iff {unreadable : String} :
    VerdictsAgree path bcrypt content unreadable ↔
      (LooksValid content → content.size ≤ maxAuthFileSize ∧
        (∀ passwordHash ∈ storedHashes content, isAscii passwordHash = true) ∧
        ((∀ passwordHash ∈ storedHashes content,
          bcrypt.wellFormed passwordHash.toByteArray = true) → bcrypt.limit = none)) := by
  constructor
  · rintro ⟨hrecords, hlogins⟩ hvalid
    rw [authCheck_pass_iff] at hrecords hlogins
    obtain ⟨records, hread⟩ := hrecords.mp hvalid
    obtain ⟨-, hsize, hascii⟩ := readRecords_isOk.mp ⟨records, hread⟩
    refine ⟨hsize, hascii, fun hformed => ?_⟩
    cases hlimit : bcrypt.limit with
    | none => rfl
    | some n =>
      obtain ⟨password, hlong⟩ := exists_not_admits hlimit
      refine absurd ((raises_iff hread).mpr fun hall => hlong ?_) (hlogins hvalid hformed "" password)
      exact ((forall_compares_iff (records_ne_nil hread)).mp hall).1
  · intro hcondition
    constructor
    · rw [authCheck_pass_iff, readRecords_isOk]
      exact ⟨fun hvalid => ⟨hvalid, (hcondition hvalid).1, (hcondition hvalid).2.1⟩, fun h => h.1⟩
    · rw [authCheck_pass_iff]
      intro hvalid hformed username password
      obtain ⟨hsize, hascii, hlimit⟩ := hcondition hvalid
      obtain ⟨records, hread⟩ : ∃ records, readRecords path (.regular content) = .ok records :=
        readRecords_isOk.mpr ⟨hvalid, hsize, hascii⟩
      rw [raises_iff hread, not_not]
      intro record hrecord
      obtain ⟨passwordHash, hstored, hhash⟩ := mem_storedHashes hread record hrecord
      exact ⟨by simp [Bcrypt.Admits, hlimit hformed], hhash ▸ hformed passwordHash hstored⟩

/-- A file whose hash is not ASCII passes the preflight, and the service cannot read it. -/
theorem verdicts_differ_hash :
    (authCheck "auth.htpasswd" "" (.regular "admin:$2b$é\n".toByteArray)).status = .pass ∧
      readRecords "auth.htpasswd" (.regular "admin:$2b$é\n".toByteArray) =
        .error .unicodeEncode := by
  decide +kernel

end Preflight

end Snarkypuss.Auth
