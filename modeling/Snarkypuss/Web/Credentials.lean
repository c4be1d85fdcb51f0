import Snarkypuss.Calls.Logic
import Snarkypuss.Python.Configparser

/-!
# Credentials

The htpasswd file, and the verification of what a visitor supplied. The calls of the verification
are its comparisons by bcrypt, so that an execution counts them.

From version 5 on bcrypt raises the same exception for a password that is too long as for a hash
that is malformed, and the verification takes it for the latter.

## Main definitions

* `Auth.readRecords`, `Auth.verifyCredentials`: `auth.py`
* `Auth.Bcrypt`: what bcrypt does, with the longest password that it takes

## Main results

* `Auth.exec_verifyRecords`: the result of a verification, and its comparisons
* `Auth.indifferent_iff`: when two visitors are treated alike
-/

namespace Snarkypuss.Auth

open Python

/-! ## The file -/

/-- The exceptions of the module and of what it calls. -/
inductive AuthException
  | authFile (message : String)
  | value
  | unicodeEncode
  deriving DecidableEq

/-- What the path of the file leads to. -/
inductive AuthFile
  | unreadable (strerror : String)
  | special
  | regular (content : ByteArray)

def maxAuthFileSize : Nat := 64 * 1024

/-- The lines of `stream.read().splitlines()`, when the content is UTF-8. -/
def fileLines (content : ByteArray) : Option (List String) :=
  (String.fromUTF8? content).map fun text =>
    splitlines (String.ofList (universalNewlines text.toList))

/-- The line is neither empty nor a comment. -/
def isRecordLine (line : String) : Bool := line ≠ "" && line.toList.head? ≠ some '#'

/-- The record lines of a file. -/
def recordLines (content : ByteArray) : Option (List String) :=
  (fileLines content).map (·.filter isRecordLine)

/-- `startswith(("$2a$", "$2b$", "$2y$"))`. -/
def hasHashPrefix (s : String) : Bool :=
  ["$2a$", "$2b$", "$2y$"].any fun start => start.toList.isPrefixOf s.toList

def isAscii (s : String) : Bool := s.toList.all fun c => decide (c.toNat < 128)

/-- A record: the bytes of the name and of the hash. -/
structure Record where
  username : ByteArray
  passwordHash : ByteArray
  deriving DecidableEq

variable (path : String)

/-- One record line of `_read_records`. -/
def readRecord (line : String) : Except AuthException Record :=
  match partition ':' line with
  | none => .error (.authFile s!"invalid htpasswd record in {path}")
  | some (username, passwordHash) =>
    if username = "" ∨ !hasHashPrefix passwordHash then
      .error (.authFile s!"invalid bcrypt htpasswd record in {path}")
    else if !isAscii passwordHash then .error .unicodeEncode
    else .ok ⟨username.toByteArray, passwordHash.toByteArray⟩

/-- `_read_records`. -/
def readRecords : AuthFile → Except AuthException (List Record)
  | .unreadable strerror => .error (.authFile s!"cannot open {path}: {strerror}")
  | .special => .error (.authFile s!"{path} is not a regular file")
  | .regular content =>
    if maxAuthFileSize < content.size then
      .error (.authFile s!"{path} exceeds the {maxAuthFileSize}-byte limit")
    else
      match recordLines content with
      | none => .error (.authFile s!"{path} is not valid UTF-8")
      | some lines => do
        let records ← lines.mapM (readRecord path)
        if records = [] then .error (.authFile s!"{path} contains no credential records")
        else pure records

/-! ## Verification -/

/-- What bcrypt does: the hashes that it can read, when a password matches one, and the length of
the longest password that it takes, where there is one. -/
structure Bcrypt where
  wellFormed : ByteArray → Bool
  agrees : (password passwordHash : ByteArray) → Bool
  limit : Option Nat

namespace Bcrypt

variable (bcrypt : Bcrypt)

/-- The password is not too long. -/
def Admits (password : ByteArray) : Prop := ∀ n ∈ bcrypt.limit, password.size ≤ n

instance (password : ByteArray) : Decidable (bcrypt.Admits password) := by
  unfold Admits
  infer_instance

/-- `bcrypt.checkpw`. -/
def checkpw (password passwordHash : ByteArray) : Except AuthException Bool :=
  if ¬ bcrypt.Admits password then .error .value
  else if !bcrypt.wellFormed passwordHash then .error .value
  else .ok (bcrypt.agrees password passwordHash)

end Bcrypt

/-- The comparisons of passwords with hashes. -/
abbrev comparisons : Interface := ⟨ByteArray × ByteArray, fun _ => Bool⟩

/-- `except ValueError`. -/
def value? : AuthException → Option Unit
  | .value => some ()
  | _ => none

/-- The loop of `verify_credentials`. -/
def verifyRecords (username password : ByteArray) :
    List Record → Bool → Program comparisons AuthException Bool
  | [], matched => pure matched
  | record :: rest, matched => do
    match ← (Program.call (I := comparisons) (password, record.passwordHash)).attempt value? with
    | .error _ => Program.raise (.authFile s!"invalid bcrypt record in {path}")
    | .ok passwordMatches =>
      verifyRecords username password rest
        (matched || (decide (username = record.username) && passwordMatches))

/-- `verify_credentials`. -/
def verifyCredentials (file : AuthFile) (username password : String) :
    Program comparisons AuthException Bool := do
  let records ← Program.done (readRecords path file)
  verifyRecords path username.toByteArray password.toByteArray records false

/-- The comparisons, answered by bcrypt. -/
def handler (bcrypt : Bcrypt) : Handler comparisons AuthException Unit :=
  fun comparison _ => (bcrypt.checkpw comparison.1 comparison.2, ())

/-- A verification of supplied credentials. -/
def verification (bcrypt : Bcrypt) (file : AuthFile) (username password : String) :
    Outcome comparisons AuthException Unit Bool :=
  (verifyCredentials path file username password).exec (handler bcrypt) ()

/-- The verification raises `AuthFileError`. -/
def RaisesAuthFile (outcome : Outcome comparisons AuthException Unit Bool) : Prop :=
  ∃ message, outcome.result = .error (.authFile message)

/-- A record of the file has the name, and its hash matches the password. -/
def HasMatch (bcrypt : Bcrypt) (file : AuthFile) (username password : String) : Prop :=
  ∃ records, readRecords path file = .ok records ∧ ∃ record ∈ records,
    username.toByteArray = record.username ∧
      bcrypt.checkpw password.toByteArray record.passwordHash = .ok true

/-! ### The loop -/

section Loop

variable {path} {bcrypt : Bcrypt} {username password : ByteArray} {record : Record}
  {records : List Record}

/-- The comparison with the hash of the record raises nothing. -/
def Bcrypt.Compares (bcrypt : Bcrypt) (password : ByteArray) (record : Record) : Prop :=
  bcrypt.Admits password ∧ bcrypt.wellFormed record.passwordHash = true

instance (bcrypt : Bcrypt) (password : ByteArray) (record : Record) :
    Decidable (bcrypt.Compares password record) := by
  unfold Bcrypt.Compares
  infer_instance

theorem Bcrypt.checkpw_of_compares (h : bcrypt.Compares password record) :
    bcrypt.checkpw password record.passwordHash =
      .ok (bcrypt.agrees password record.passwordHash) := by
  simp [Bcrypt.checkpw, h.1, h.2]

theorem Bcrypt.checkpw_of_not_compares (h : ¬ bcrypt.Compares password record) :
    bcrypt.checkpw password record.passwordHash = .error .value := by
  unfold Bcrypt.checkpw
  by_cases hadmits : bcrypt.Admits password
  · have hmalformed : bcrypt.wellFormed record.passwordHash = false := by
      simpa [Bcrypt.Compares, hadmits] using h
    simp [hadmits, hmalformed]
  · simp [hadmits]

/-- How many records are compared: those before the first that raises, and that one. -/
def compared (bcrypt : Bcrypt) (password : ByteArray) : List Record → Nat
  | [] => 0
  | record :: rest => if bcrypt.Compares password record then compared bcrypt password rest + 1 else 1

/-- The record is of the name, and its hash matches. -/
def Bcrypt.recognises (bcrypt : Bcrypt) (username password : ByteArray) (record : Record) : Bool :=
  decide (username = record.username) && bcrypt.agrees password record.passwordHash

/-- One comparison, with its exception caught. -/
theorem exec_compare (passwordHash : ByteArray) :
    ((Program.call (I := comparisons) (password, passwordHash)).attempt value?).exec
        (handler bcrypt) () =
      ⟨[⟨(password, passwordHash), bcrypt.checkpw password passwordHash, ()⟩],
        Program.reify value? (bcrypt.checkpw password passwordHash), ()⟩ := by
  rw [Program.exec_attempt]
  rfl

/-- **One execution of the loop.** It raises at the first comparison that raises. Otherwise every
record has been compared, and the result does not depend on where the match was. -/
theorem exec_verifyRecords (matched : Bool) :
    ((verifyRecords path username password records matched).exec (handler bcrypt) ()).result =
        (if ∀ record ∈ records, bcrypt.Compares password record then
          .ok (matched || records.any (bcrypt.recognises username password))
        else .error (.authFile s!"invalid bcrypt record in {path}")) ∧
      ((verifyRecords path username password records matched).exec
        (handler bcrypt) ()).exchanges.length = compared bcrypt password records := by
  induction records generalizing matched with
  | nil => simp [verifyRecords, compared]
  | cons record rest ih =>
    unfold verifyRecords compared
    by_cases hcompares : bcrypt.Compares password record
    · obtain ⟨hresult, hlength⟩ := ih
        (matched || (decide (username = record.username) &&
          bcrypt.agrees password record.passwordHash))
      rw [Program.bind_eq, Program.exec_bind, exec_compare, Bcrypt.checkpw_of_compares hcompares]
      constructor
      · simpa [hcompares, Bcrypt.recognises, Bool.or_assoc] using hresult
      · simpa [hcompares] using hlength
    · rw [Program.bind_eq, Program.exec_bind, exec_compare,
        Bcrypt.checkpw_of_not_compares hcompares]
      simp [hcompares, Program.reify, value?]

/-- Two passwords that are both short enough are compared with the same records. -/
theorem compared_congr {password' : ByteArray}
    (h : bcrypt.Admits password ↔ bcrypt.Admits password') :
    compared bcrypt password records = compared bcrypt password' records := by
  have hcompares : ∀ record, bcrypt.Compares password record ↔ bcrypt.Compares password' record :=
    fun record => by simp [Bcrypt.Compares, h]
  induction records with
  | nil => rfl
  | cons record rest ih => simp [compared, hcompares, ih]

/-- A password that is too long is compared once. -/
theorem compared_of_not_admits (h : ¬ bcrypt.Admits password) :
    compared bcrypt password (record :: records) = 1 := by
  simp [compared, Bcrypt.Compares, h]

/-- A password that is short enough is compared once only when the first hash is malformed, or
there is no other. -/
theorem compared_of_admits (h : bcrypt.Admits password) :
    compared bcrypt password (record :: records) =
      if bcrypt.wellFormed record.passwordHash then compared bcrypt password records + 1 else 1 := by
  simp [compared, Bcrypt.Compares, h]

theorem compared_pos (h : records ≠ []) : 1 ≤ compared bcrypt password records := by
  cases records with
  | nil => exact absurd rfl h
  | cons record rest =>
    unfold compared
    split <;> omega

end Loop

/-! ### Two visitors -/

section Visitors

variable {path} {bcrypt : Bcrypt} {file : AuthFile} {username password username' password' : String}
  {records : List Record}

/-- A verification that finds no records raises what the reader raised. -/
theorem verification_of_error {e : AuthException} (h : readRecords path file = .error e) :
    verification path bcrypt file username password = ⟨[], .error e, ()⟩ := by
  rw [verification, verifyCredentials, h]
  rfl

/-- A verification of credentials with the records of a file. -/
theorem verification_of_records (h : readRecords path file = .ok records) :
    (verification path bcrypt file username password).result =
        (if ∀ record ∈ records, bcrypt.Compares password.toByteArray record then
          .ok (records.any (bcrypt.recognises username.toByteArray password.toByteArray))
        else .error (.authFile s!"invalid bcrypt record in {path}")) ∧
      (verification path bcrypt file username password).exchanges.length =
        compared bcrypt password.toByteArray records := by
  have hrecords : verifyCredentials path file username password =
      verifyRecords path username.toByteArray password.toByteArray records false := by
    rw [verifyCredentials, h]
    rfl
  rw [verification, hrecords]
  simpa only [Bool.false_or] using exec_verifyRecords false

/-- A verification with records raises exactly when some comparison does. -/
theorem raises_iff (h : readRecords path file = .ok records) :
    RaisesAuthFile (verification path bcrypt file username password) ↔
      ¬ ∀ record ∈ records, bcrypt.Compares password.toByteArray record := by
  rw [RaisesAuthFile, (verification_of_records h).1]
  split <;> simp_all

theorem hasMatch_iff (h : readRecords path file = .ok records) :
    HasMatch path bcrypt file username password ↔
      ∃ record ∈ records, bcrypt.Compares password.toByteArray record ∧
        bcrypt.recognises username.toByteArray password.toByteArray record := by
  have hcheck : ∀ record, bcrypt.checkpw password.toByteArray record.passwordHash = .ok true ↔
      bcrypt.Compares password.toByteArray record ∧
        bcrypt.agrees password.toByteArray record.passwordHash = true := by
    intro record
    by_cases hcompares : bcrypt.Compares password.toByteArray record
    · simp [Bcrypt.checkpw_of_compares hcompares, hcompares]
    · simp [Bcrypt.checkpw_of_not_compares hcompares, hcompares]
  unfold HasMatch
  simp only [h, Except.ok.injEq, exists_eq_left', hcheck, Bcrypt.recognises, Bool.and_eq_true,
    decide_eq_true_eq]
  constructor
  · rintro ⟨record, hrecord, hname, hcompares, hagrees⟩
    exact ⟨record, hrecord, hcompares, hname, hagrees⟩
  · rintro ⟨record, hrecord, hcompares, hname, hagrees⟩
    exact ⟨record, hrecord, hname, hcompares, hagrees⟩

/-- A verification that returns says whether some record has the name and matches. -/
theorem verification_correct {found : Bool}
    (h : (verification path bcrypt file username password).result = .ok found) :
    found = true ↔ HasMatch path bcrypt file username password := by
  cases hread : readRecords path file with
  | error e => simp [verification_of_error hread] at h
  | ok records =>
    rw [(verification_of_records hread).1] at h
    split at h
    · rename_i hall
      obtain rfl := Except.ok.inj h
      rw [hasMatch_iff hread, List.any_eq_true]
      refine exists_congr fun record => and_congr_right fun hrecord => ?_
      simp [hall record hrecord]
    · cases h

/-- It returns `True` exactly when there is a match, unless a comparison raises in spite of one. -/
theorem returns_true_iff (h : readRecords path file = .ok records) :
    ((verification path bcrypt file username password).result = .ok true ↔
        HasMatch path bcrypt file username password) ↔
      ((∀ record ∈ records, bcrypt.Compares password.toByteArray record) ∨
        ¬ HasMatch path bcrypt file username password) := by
  have hresult : (verification path bcrypt file username password).result = _ :=
    (verification_of_records h).1
  split at hresult
  · rename_i hall
    rw [← verification_correct hresult, hresult]
    simp only [Except.ok.injEq, true_iff]
    exact .inl hall
  · rename_i hall
    rw [hresult]
    simp [hall]

theorem records_ne_nil (h : readRecords path file = .ok records) : records ≠ [] := by
  cases file with
  | unreadable strerror => cases h
  | special => cases h
  | regular content =>
    simp only [readRecords] at h
    split at h
    · cases h
    split at h
    · cases h
    · obtain ⟨records', -, h⟩ := bind_eq_ok.mp h
      split at h
      · cases h
      · obtain rfl := Except.ok.inj h
        assumption

variable (path bcrypt file) in
/-- Two visitors are treated alike, and each is let in exactly when there is a match. -/
structure Indifferent (username password username' password' : String) : Prop where
  raises : RaisesAuthFile (verification path bcrypt file username password) ↔
    RaisesAuthFile (verification path bcrypt file username' password')
  first : (verification path bcrypt file username password).result = .ok true ↔
    HasMatch path bcrypt file username password
  second : (verification path bcrypt file username' password').result = .ok true ↔
    HasMatch path bcrypt file username' password'
  compared : (verification path bcrypt file username password).exchanges.length =
    (verification path bcrypt file username' password').exchanges.length

theorem Indifferent.symm (h : Indifferent path bcrypt file username password username' password') :
    Indifferent path bcrypt file username' password' username password :=
  ⟨h.raises.symm, h.second, h.first, h.compared.symm⟩

/-- Every comparison is made when the password is short enough and no hash is malformed. -/
theorem forall_compares_iff (hne : records ≠ []) {password : ByteArray} :
    (∀ record ∈ records, bcrypt.Compares password record) ↔
      bcrypt.Admits password ∧ ∀ record ∈ records, bcrypt.wellFormed record.passwordHash = true := by
  obtain ⟨record, rest, rfl⟩ := List.exists_cons_of_ne_nil hne
  constructor
  · intro h
    exact ⟨(h record List.mem_cons_self).1, fun r hr => (h r hr).2⟩
  · rintro ⟨hadmits, hformed⟩ r hr
    exact ⟨hadmits, hformed r hr⟩

theorem not_hasMatch_of_not_admits (path : String) (file : AuthFile) (username : String)
    (h : ¬ bcrypt.Admits password.toByteArray) :
    ¬ HasMatch path bcrypt file username password := by
  rintro ⟨records, -, record, -, -, hcheck⟩
  simp [Bcrypt.checkpw, h] at hcheck

/-- A visitor whose password is short enough, and one whose password is too long. -/
theorem indifferent_mixed (h : readRecords path file = .ok records)
    (hshort : bcrypt.Admits password.toByteArray) (hlong : ¬ bcrypt.Admits password'.toByteArray) :
    Indifferent path bcrypt file username password username' password' ↔
      (∃ record ∈ records.head?, bcrypt.wellFormed record.passwordHash = false) ∧
        ¬ HasMatch path bcrypt file username password := by
  have hne := records_ne_nil h
  have hraises : RaisesAuthFile (verification path bcrypt file username' password') := by
    rw [raises_iff h, forall_compares_iff hne]
    exact fun hall => hlong hall.1
  obtain ⟨record, rest, rfl⟩ := List.exists_cons_of_ne_nil hne
  simp only [List.head?_cons, Option.mem_def, Option.some.injEq, exists_eq_left']
  constructor
  · rintro ⟨hiff, hfirst, -, hcompared⟩
    have hnot := (raises_iff h).mp (hiff.mpr hraises)
    refine ⟨?_, ((returns_true_iff h).mp hfirst).resolve_left hnot⟩
    rw [(verification_of_records h).2, (verification_of_records h).2,
      compared_of_not_admits hlong, compared_of_admits hshort] at hcompared
    by_contra hformed
    -- were the first hash well formed, another one would have to be compared
    rw [if_pos (by simpa using hformed)] at hcompared
    cases rest with
    | nil =>
      refine hnot ((forall_compares_iff hne).mpr ⟨hshort, ?_⟩)
      simpa using hformed
    | cons next rest =>
      have hpos : 1 ≤ compared bcrypt password.toByteArray (next :: rest) := compared_pos (by simp)
      omega
  · rintro ⟨hmalformed, hnone⟩
    have hnot : ¬ ∀ r ∈ record :: rest, bcrypt.Compares password.toByteArray r := fun hall => by
      simp [(hall record List.mem_cons_self).2] at hmalformed
    refine ⟨iff_of_true ((raises_iff h).mpr hnot) hraises, (returns_true_iff h).mpr (.inr hnone),
      (returns_true_iff h).mpr (.inr (not_hasMatch_of_not_admits _ _ _ hlong)), ?_⟩
    rw [(verification_of_records h).2, (verification_of_records h).2,
      compared_of_not_admits hlong, compared_of_admits hshort, hmalformed]
    rfl

/-- **When two visitors are treated alike.** With a file that has records: when bcrypt takes both
passwords or neither, or stumbles over the first hash anyway, and when no malformed hash stands
in the way of a match. -/
theorem indifferent_iff :
    Indifferent path bcrypt file username password username' password' ↔
      ∀ records, readRecords path file = .ok records →
        ((bcrypt.Admits password.toByteArray ↔ bcrypt.Admits password'.toByteArray) ∨
          ∃ record ∈ records.head?, bcrypt.wellFormed record.passwordHash = false) ∧
        ((∀ record ∈ records, bcrypt.wellFormed record.passwordHash = true) ∨
          ¬ HasMatch path bcrypt file username password ∧
            ¬ HasMatch path bcrypt file username' password') := by
  cases h : readRecords path file with
  | error e =>
    have hnone : ∀ username password, ¬ HasMatch path bcrypt file username password := by
      rintro username password ⟨records, hrecords, -⟩
      rw [h] at hrecords
      cases hrecords
    refine iff_of_true ⟨?_, ?_, ?_, ?_⟩ (by simp) <;> simp [verification_of_error h, hnone,
      RaisesAuthFile]
  | ok records =>
    have hne := records_ne_nil h
    simp only [Except.ok.injEq, forall_eq']
    -- where the first hash is malformed, not all hashes are well formed
    have hhead : (∃ record ∈ records.head?, bcrypt.wellFormed record.passwordHash = false) →
        ¬ ∀ record ∈ records, bcrypt.wellFormed record.passwordHash = true := by
      rintro ⟨record, hrecord, hmalformed⟩ hformed
      simp [hformed record (List.mem_of_head? hrecord)] at hmalformed
    by_cases hshort : bcrypt.Admits password.toByteArray <;>
      by_cases hshort' : bcrypt.Admits password'.toByteArray
    · simp only [hshort, hshort', true_or, true_and]
      constructor
      · rintro ⟨-, hfirst, hsecond, -⟩
        have hfirst := (returns_true_iff h).mp hfirst
        have hsecond := (returns_true_iff h).mp hsecond
        rw [forall_compares_iff hne] at hfirst hsecond
        tauto
      · intro hcondition
        refine ⟨?_, ?_, ?_, ?_⟩
        · rw [raises_iff h, raises_iff h, forall_compares_iff hne, forall_compares_iff hne]
          tauto
        · rw [returns_true_iff h, forall_compares_iff hne]
          tauto
        · rw [returns_true_iff h, forall_compares_iff hne]
          tauto
        · rw [(verification_of_records h).2, (verification_of_records h).2]
          exact compared_congr (by simp [hshort, hshort'])
    · have hnone := not_hasMatch_of_not_admits path file username' hshort'
      have hparity : ¬ (bcrypt.Admits password.toByteArray ↔ bcrypt.Admits password'.toByteArray) := by
        simp [hshort, hshort']
      rw [indifferent_mixed h hshort hshort', or_iff_right hparity, and_iff_left hnone]
      exact and_congr_right fun hfirst => (or_iff_right (hhead hfirst)).symm
    · have hnone := not_hasMatch_of_not_admits path file username hshort
      have hparity : ¬ (bcrypt.Admits password.toByteArray ↔ bcrypt.Admits password'.toByteArray) := by
        simp [hshort, hshort']
      have hswap : Indifferent path bcrypt file username password username' password' ↔
          Indifferent path bcrypt file username' password' username password := ⟨.symm, .symm⟩
      rw [hswap, indifferent_mixed h hshort' hshort, or_iff_right hparity, and_iff_right hnone]
      exact and_congr_right fun hfirst => (or_iff_right (hhead hfirst)).symm
    · have hnone := not_hasMatch_of_not_admits path file username hshort
      have hnone' := not_hasMatch_of_not_admits path file username' hshort'
      refine iff_of_true ⟨?_, (returns_true_iff h).mpr (.inr hnone),
        (returns_true_iff h).mpr (.inr hnone'), ?_⟩ (by tauto)
      · rw [raises_iff h, raises_iff h, forall_compares_iff hne, forall_compares_iff hne]
        tauto
      · rw [(verification_of_records h).2, (verification_of_records h).2]
        exact compared_congr (by simp [hshort, hshort'])

end Visitors

/-- A bcrypt of version 5, to which no hash is malformed and no password matches. -/
def strictBcrypt : Bcrypt := ⟨fun _ => true, fun _ _ => false, some 72⟩

/-- A file with one record. -/
def sampleFile : AuthFile := .regular "admin:$2b$12$salt\n".toByteArray

/-- A visitor who types more than 72 bytes is told that the service is unavailable. -/
theorem indifferent_long_password :
    ¬ Indifferent "auth.htpasswd" strictBcrypt sampleFile "admin" "guess" "admin"
      (String.ofList (List.replicate 73 'a')) := by
  rintro ⟨hraises, -, -, -⟩
  have hlong : RaisesAuthFile (verification "auth.htpasswd" strictBcrypt sampleFile "admin"
      (String.ofList (List.replicate 73 'a'))) :=
    ⟨"invalid bcrypt record in auth.htpasswd", by decide +kernel⟩
  obtain ⟨message, hmessage⟩ := hraises.mpr hlong
  have hshort : (verification "auth.htpasswd" strictBcrypt sampleFile "admin" "guess").result =
      .ok false := by decide +kernel
  rw [hshort] at hmessage
  cases hmessage

end Snarkypuss.Auth
