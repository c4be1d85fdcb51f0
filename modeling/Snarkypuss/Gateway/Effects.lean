import Snarkypuss.Dns.Restoration
import Snarkypuss.Gateway.Configure
import Snarkypuss.Migration.Writing

/-!
# The files of the configuration

Which files a run of `snarkypuss-configure.py` writes, and what each of its calls does to a file
system when any call may fail. The files themselves, their copies and the temporary files have names
that end differently after the last dot, so that no two kinds of them meet.

## Main definitions

* `Generated`, `Target`: the files that every run writes, and these with the server's keys
* `tempOf`, `Temporary`: the temporary files for these
* `ScriptCall.ReadOnly`: the calls that look

## Main results

* `Target.ne_tempOf`, `Target.ne_backup`, `tempOf_ne_backup`, `key_not_generated`: the kinds are
  apart
* `Answers.content_mkdir`, `Answers.copy`, `Answers.mkstemp`, `Answers.write`, `Answers.replace`,
  `Answers.unlink`: what is found afterwards
-/

namespace Snarkypuss.Gateway

open Python Python.PosixPath Files Files.Tree Program

/-! ## Names -/

/-- A text with a dot is cut in one way at its last dot. -/
theorem dot_inj {as bs xs ys : List Char} (h : as ++ '.' :: xs = bs ++ '.' :: ys) (hxs : '.' ∉ xs)
    (hys : '.' ∉ ys) : as = bs ∧ xs = ys := by
  rcases List.append_eq_append_iff.mp h with ⟨l, rfl, hl⟩ | ⟨l, rfl, hl⟩
  all_goals
    cases l with
    | nil => simp_all
    | cons c l =>
      -- the other text would have a dot after its last one
      obtain ⟨rfl, rfl⟩ := List.cons.inj hl
      simp at hxs hys

theorem isDigit_str {n : ℕ} {c : Char} (h : c ∈ (str n).toList) : c.isDigit := by
  rw [str, String.toList_ofList] at h
  exact Nat.isDigit_of_mem_toDigits (by decide) (by decide) h

theorem isDigit_padded {width n : ℕ} {c : Char} (h : c ∈ (padded width n).toList) : c.isDigit := by
  simp only [padded, String.toList_append, String.toList_ofList, List.mem_append,
    List.mem_replicate] at h
  rcases h with ⟨-, rfl⟩ | h
  · decide
  · exact isDigit_str h

/-- An instant is written with digits and two letters. -/
theorem mem_timestamp {now : Moment} {c : Char} (h : c ∈ now.timestamp.toList) :
    c.isDigit ∨ c = 'T' ∨ c = 'Z' := by
  simp only [Moment.timestamp, String.toList_append, List.mem_append] at h
  have hletters : ("T".toList = ['T']) ∧ "Z".toList = ['Z'] := by decide
  simp only [hletters.1, hletters.2, List.mem_singleton] at h
  obtain (((((((h | h) | h) | h) | h) | h) | h) | h) := h
  all_goals first | exact .inl (isDigit_padded h) | simp [h]

/-- A part of a name that tells an instant. -/
structure Stamp (timestamp : String) : Prop where
  dot : '.' ∉ timestamp.toList
  letter : 'Z' ∈ timestamp.toList

theorem stamp_timestamp (now : Moment) : Stamp now.timestamp where
  dot := by
    intro h
    rcases mem_timestamp h with h | h | h <;> revert h <;> decide
  letter := by
    simp only [Moment.timestamp, String.toList_append, List.mem_append]
    exact .inr (by decide)

theorem dot_not_mem_str (n : ℕ) : '.' ∉ (str n).toList := by
  intro h
  have := isDigit_str h
  revert this
  decide

/-! ## The files -/

/-- The files that every run writes. -/
inductive Generated (root : PosixPath) : PosixPath → Prop
  | wireguard {i : String} (hi : IsInterfaceName i) : Generated root (wireguardPath root i)
  | dnsmasq : Generated root (dnsmasqPath root)
  | dnsmasqSystemd : Generated root (dnsmasqSystemdPath root)
  | sysctl : Generated root (sysctlPath root)

/-- The files that a run may write: those, and the key of an interface. -/
inductive Target (root : PosixPath) : PosixPath → Prop
  | generated {path : PosixPath} (h : Generated root path) : Target root path
  | key {i : String} (hi : IsInterfaceName i) : Target root (privateKeyPath root i)

section Paths

variable {root path : PosixPath} {i : String}

/-- A directory below the root. -/
def below (root : PosixPath) (parts : List String) : PosixPath := ⟨"/", root.parts ++ parts⟩

theorem rooted_below (hroot : root.Plain) {absolute : String} (parts : List String) (name : String)
    (h : PosixPath.ofString (removeSlash absolute) = ⟨"", parts ++ [name]⟩) :
    rooted root absolute = (below root parts).child name := by
  rw [Dns.rooted_eq ⟨root, hroot⟩ h, below, child, List.append_assoc]

/-- What an interface is named has no slash in it. -/
theorem IsInterfaceName.slash (hi : IsInterfaceName i) : '/' ∉ i.toList ∧ '\x00' ∉ i.toList := by
  constructor
  all_goals
    intro h
    have := List.all_eq_true.mp hi.2.2 _ h
    revert this
    decide

/-- A file of WireGuard's directory that is named after an interface. -/
theorem wireguard_child (hroot : root.Plain) (hi : IsInterfaceName i) {suffix : String}
    (hlength : 2 ≤ suffix.length) (hslash : '/' ∉ suffix.toList) :
    rooted root ("/etc/wireguard/" ++ i ++ suffix) =
      (below root ["etc", "wireguard"]).child (i ++ suffix) := by
  apply rooted_below hroot ["etc", "wireguard"]
  have htext : removeSlash ("/etc/wireguard/" ++ i ++ suffix) =
      "/".intercalate ["etc", "wireguard", i ++ suffix] := by
    apply String.toList_inj.mp
    rw [toList_intercalate_slash]
    simp [removeSlash, String.toList_append, List.intercalate]
  rw [htext]
  apply ofString_relative
  intro part hpart
  simp only [List.mem_cons, List.not_mem_nil, or_false] at hpart
  rcases hpart with rfl | rfl | rfl
  · exact ⟨by decide, by decide, by decide⟩
  · exact ⟨by decide, by decide, by decide⟩
  · have hsize : 3 ≤ (i ++ suffix).length := by
      rw [String.length_append]
      have := hi.1
      omega
    refine ⟨?_, ?_, ?_⟩
    · intro h
      simp [h] at hsize
    · intro h
      rw [h] at hsize
      revert hsize
      decide
    · rw [String.toList_append, List.mem_append]
      exact fun h => h.elim hi.slash.1 hslash

/-- The name of a path ends in a dot and these characters. -/
def Ending (path : PosixPath) (ending : List Char) : Prop :=
  '.' ∉ ending ∧ ∃ stem, path.name.toList = stem ++ '.' :: ending

theorem Ending.unique {ending ending' : List Char} (h : Ending path ending)
    (h' : Ending path ending') : ending = ending' := by
  obtain ⟨hdot, stem, hstem⟩ := h
  obtain ⟨hdot', stem', hstem'⟩ := h'
  exact (dot_inj (hstem.symm.trans hstem') hdot hdot').2

/-- What is known of where a file is. -/
structure Located (root path : PosixPath) (endings : List (List Char)) : Prop where
  plain : path.Plain
  parts : path.parts ≠ []
  ending : ∃ ending ∈ endings, Ending path ending

theorem located_child (hroot : root.Plain) (parts : List String) {name : String} (stem : String)
    (ending : List Char) {endings : List (List Char)}
    (hparts : ∀ part ∈ parts, part ≠ ".." ∧ '\x00' ∉ part.toList) (hdots : name ≠ "..")
    (hnul : '\x00' ∉ name.toList) (hname : name.toList = stem.toList ++ '.' :: ending)
    (hending : ending ∈ endings) (hdot : '.' ∉ ending) :
    Located root ((below root parts).child name) endings where
  plain := by
    refine Migration.plain_child ⟨rfl, fun part hpart => ?_⟩ hdots hnul
    rcases List.mem_append.mp hpart with hpart | hpart
    · exact hroot.2 part hpart
    · exact hparts part hpart
  parts := by simp [child]
  ending := ⟨ending, hending, hdot, stem.toList, by rw [name_child, hname]⟩

theorem located_wireguard (hroot : root.Plain) (hi : IsInterfaceName i) (suffix stem : String)
    (ending : List Char) {endings : List (List Char)}
    (hsuffix : suffix.toList = stem.toList ++ '.' :: ending) (hlength : 2 ≤ suffix.length)
    (hslash : '/' ∉ suffix.toList) (hnul : '\x00' ∉ suffix.toList) (hending : ending ∈ endings)
    (hdot : '.' ∉ ending) :
    Located root (rooted root ("/etc/wireguard/" ++ i ++ suffix)) endings := by
  rw [wireguard_child hroot hi hlength hslash]
  refine located_child hroot _ (i ++ stem) ending (by decide) ?_ ?_ ?_ hending hdot
  · intro h
    have hsize := congrArg String.length h
    have htwo : "..".length = 2 := by decide
    rw [String.length_append, htwo] at hsize
    have := hi.1
    omega
  · rw [String.toList_append, List.mem_append]
    exact fun h => h.elim hi.slash.2 hnul
  · rw [String.toList_append, String.toList_append, hsuffix, List.append_assoc]

/-- The endings of the names of the files that every run writes. -/
def generatedEndings : List (List Char) :=
  [['c', 'o', 'n', 'f'], ['s', 'e', 'r', 'v', 'i', 'c', 'e']]

theorem Generated.located (hroot : root.Plain) (h : Generated root path) :
    Located root path generatedEndings := by
  cases h with
  | wireguard hi =>
    exact located_wireguard hroot hi ".conf" "" ['c', 'o', 'n', 'f'] (by decide) (by decide)
      (by decide) (by decide) (by decide) (by decide)
  | dnsmasq =>
    rw [show dnsmasqPath root = _ from rooted_below hroot ["etc", "snarkypuss"]
      "dnsmasq.conf" (by decide +kernel)]
    exact located_child hroot _ "dnsmasq" ['c', 'o', 'n', 'f'] (by decide) (by decide)
      (by decide) (by decide) (by decide) (by decide)
  | dnsmasqSystemd =>
    rw [show dnsmasqSystemdPath root = _ from rooted_below hroot
      ["etc", "systemd", "system"] "snarkypuss-dns.service" (by decide +kernel)]
    exact located_child hroot _ "snarkypuss-dns" ['s', 'e', 'r', 'v', 'i', 'c', 'e']
      (by decide) (by decide) (by decide) (by decide) (by decide) (by decide)
  | sysctl =>
    rw [show sysctlPath root = _ from rooted_below hroot ["etc", "sysctl.d"]
      "90-snarkypuss.conf" (by decide +kernel)]
    exact located_child hroot _ "90-snarkypuss" ['c', 'o', 'n', 'f'] (by decide) (by decide)
      (by decide) (by decide) (by decide) (by decide)

theorem located_key (hroot : root.Plain) (hi : IsInterfaceName i) :
    Located root (privateKeyPath root i) [['k', 'e', 'y']] :=
  located_wireguard hroot hi ".private.key" ".private" ['k', 'e', 'y'] (by decide) (by decide)
    (by decide) (by decide) (by decide) (by decide)

/-- The endings of the names of the files that a run may write. -/
def endings : List (List Char) := ['k', 'e', 'y'] :: generatedEndings

theorem Target.located (hroot : root.Plain) (h : Target root path) : Located root path endings := by
  cases h with
  | generated h =>
    obtain ⟨hplain, hparts, ending, hmem, hending⟩ := h.located hroot
    exact ⟨hplain, hparts, ending, List.mem_cons_of_mem _ hmem, hending⟩
  | key hi =>
    obtain ⟨hplain, hparts, ending, hmem, hending⟩ := located_key hroot hi
    exact ⟨hplain, hparts, ending, List.mem_singleton.mp hmem ▸ List.mem_cons_self, hending⟩

/-- A key is no file that every run writes. -/
theorem key_not_generated (hroot : root.Plain) (hi : IsInterfaceName i) :
    ¬ Generated root (privateKeyPath root i) := by
  intro h
  obtain ⟨-, -, ending, hmem, hending⟩ := h.located hroot
  obtain ⟨-, -, ending', hmem', hending'⟩ := located_key hroot hi
  obtain rfl := hending.unique hending'
  revert hmem
  rw [List.mem_singleton.mp hmem']
  decide

/-! ### Temporary files and copies -/

/-- A temporary file for a file. -/
def tempOf (path : PosixPath) (name : TempName) : PosixPath :=
  path.parent.child (s!".{path.name}." ++ name.text)

/-- The temporary files for the files that a run may write. -/
def Temporary (root q : PosixPath) : Prop := ∃ path name, Target root path ∧ q = tempOf path name

theorem ending_tempOf (path : PosixPath) (name : TempName) :
    (tempOf path name).name.toList = ('.' :: path.name.toList) ++ '.' :: name.text.toList := by
  rw [tempOf, name_child]
  simp [String.toList_append, toString]

theorem ending_backup (path : PosixPath) (timestamp : String) : ∀ n,
    ∃ stem ending, (backupCandidate path timestamp n).name.toList = stem ++ '.' :: ending ∧
      (n = 0 ∧ ending = timestamp.toList ∨ (∃ k, ending = (str k).toList) ∧
        ∃ stem', stem = stem' ++ '.' :: timestamp.toList)
  | 0 => by
    refine ⟨path.name.toList ++ ".bak".toList, timestamp.toList, ?_, .inl ⟨rfl, rfl⟩⟩
    rw [backupCandidate, withName, name_child]
    simp [String.toList_append, toString]
  | n + 1 => by
    refine ⟨path.name.toList ++ ".bak.".toList ++ timestamp.toList, (str (n + 1)).toList, ?_,
      .inr ⟨⟨n + 1, rfl⟩, path.name.toList ++ ".bak".toList, by simp⟩⟩
    rw [backupCandidate, withName, name_child]
    simp [String.toList_append, toString]

/-- No name that ends so is the name of a copy or of a temporary file. -/
theorem endings_spec : ∀ ending ∈ endings, 'Z' ∉ ending ∧ ending.length ≠ 8 ∧
    ∃ c ∈ ending, c.isDigit = false := by
  simp only [endings, generatedEndings, List.forall_mem_cons]
  refine ⟨⟨by decide, by decide, 'k', by decide, by decide⟩,
    ⟨by decide, by decide, 'c', by decide, by decide⟩,
    ⟨by decide, by decide, 's', by decide, by decide⟩, ?_⟩
  simp

/-- **A temporary file is no file that a run may write.** -/
theorem Target.ne_tempOf (hroot : root.Plain) (h : Target root path) (p : PosixPath)
    (name : TempName) : path ≠ tempOf p name := by
  rintro rfl
  obtain ⟨-, -, ending, hmem, hdot, stem, hstem⟩ := h.located hroot
  rw [ending_tempOf] at hstem
  obtain ⟨-, rfl⟩ := dot_inj hstem name.dot_not_mem hdot
  have hlength : name.text.toList.length = 8 := by
    rw [String.length_toList]
    exact name.length_eq
  exact (endings_spec _ hmem).2.1 hlength

section Copies

variable {timestamp : String} (hstamp : Stamp timestamp)

include hstamp

/-- **A copy is no file that a run may write.** -/
theorem Target.ne_backup (hroot : root.Plain) (h : Target root path) (p : PosixPath) (n : ℕ) :
    path ≠ backupCandidate p timestamp n := by
  intro heq
  obtain ⟨-, -, ending, hmem, hdot, stem, hstem⟩ := h.located hroot
  obtain ⟨hletter, -, c, hc, hdigit⟩ := endings_spec ending hmem
  obtain ⟨stem', ending', hstem', ⟨-, rfl⟩ | ⟨⟨k, rfl⟩, -⟩⟩ := ending_backup p timestamp n
  · rw [heq, hstem'] at hstem
    obtain ⟨-, rfl⟩ := dot_inj hstem hstamp.dot hdot
    exact hletter hstamp.letter
  · rw [heq, hstem'] at hstem
    obtain ⟨-, rfl⟩ := dot_inj hstem (dot_not_mem_str k) hdot
    rw [isDigit_str hc] at hdigit
    cases hdigit

/-- **A temporary file is no copy.** -/
theorem Temporary.ne_backup (hroot : root.Plain) {q : PosixPath} (h : Temporary root q)
    (p : PosixPath) (n : ℕ) : q ≠ backupCandidate p timestamp n := by
  obtain ⟨path, name, htarget, rfl⟩ := h
  intro heq
  obtain ⟨-, -, ending, hmem, hdot, stem, hstem⟩ := htarget.located hroot
  obtain ⟨stem', ending', hstem', hending⟩ := ending_backup p timestamp n
  have hname := ending_tempOf path name
  rw [heq, hstem'] at hname
  rcases hending with ⟨-, rfl⟩ | ⟨⟨k, rfl⟩, stem'', rfl⟩
  · -- the instant has a capital letter
    obtain ⟨-, hlast⟩ := dot_inj hname hstamp.dot name.dot_not_mem
    have hletter := List.all_eq_true.mp name.chars 'Z' (hlast ▸ hstamp.letter)
    revert hletter
    decide
  · -- what stands before the number ends in an instant
    obtain ⟨hbefore, -⟩ := dot_inj hname (dot_not_mem_str k) name.dot_not_mem
    rw [hstem, ← List.cons_append] at hbefore
    obtain ⟨-, rfl⟩ := dot_inj hbefore hstamp.dot hdot
    exact (endings_spec _ hmem).1 hstamp.letter

end Copies

end Paths

/-! ## The calls -/

/-- The calls that look, and leave the file system as it is. -/
def ScriptCall.ReadOnly : ScriptCall → Prop
  | .mkdir .. | .chmod .. | .copy .. | .mkstemp .. | .write .. | .replace .. | .unlink ..
  | .configure .. => False
  | _ => True

section Calls

variable {data : TextData} {s t : Tree} {path p q : PosixPath} {mode : Fin 4096}

theorem onPath_state {A : Type} {work : PosixPath → Except ScriptError A × Tree}
    (h : ∀ p, (work p).2 = s) : (onPath s path work).2 = s := by
  unfold onPath
  split
  · exact h _
  · rfl

/-- **A call that looks leaves the file system as it is.** -/
theorem Answers.readOnly {c : ScriptCall} {r : Except ScriptError (scripts.Reply c)}
    (h : Answers data c s r t) (hc : c.ReadOnly) : t = s := by
  rcases h with ⟨platform, h⟩ | ⟨e, -, hleaves⟩ | h
  · have hstate : (handler data platform c s).2 = s := by
      cases c with
      | readBytes path =>
        refine onPath_state fun p => ?_
        unfold readFileBytes
        split <;> rfl
      | statMode path =>
        refine onPath_state fun p => ?_
        split <;> rfl
      | iptablesSave =>
        simp only [handler]
        split <;> rfl
      | geteuid | now | readSetup | «exists» | isFile | isDir | genkey | pubkey | whichIptablesSave => rfl
      | mkdir | chmod | copy | mkstemp | write | replace | unlink | configure => exact hc.elim
    rw [h] at hstate
    exact hstate
  · cases c with
    | mkdir | chmod | copy | mkstemp | write | replace | unlink | configure => exact hc.elim
    | _ => exact hleaves
  · cases c with
    | readSetup => exact h.1
    | _ => exact h.elim

/-- A path that is found to exist. -/
theorem Answers.exists_eq (hplain : path.Plain) {found : Bool}
    (h : Answers data (.exists path) s (.ok found) t) : found = (s path).isSome := by
  rcases h with ⟨platform, h⟩ | ⟨e, he, -⟩ | h
  · have hreply := congrArg Prod.fst h
    simp only [handler, askPath_of_plain s hplain] at hreply
    exact (Except.ok.inj hreply).symm
  · cases he
  · exact h.elim

/-- A file that is read. -/
theorem Answers.readBytes_eq (hplain : path.Plain) {content : ByteArray}
    (h : Answers data (.readBytes path) s (.ok content) t) : s.content path = some content := by
  rcases h with ⟨platform, h⟩ | ⟨e, he, -⟩ | h
  · have h : readFileBytes s path = (.ok content, t) := (onPath_of_plain s hplain _).symm.trans h
    unfold readFileBytes at h
    split at h
    · rename_i found mode hfile
      obtain rfl : found = content := Except.ok.inj (congrArg Prod.fst h)
      exact content_eq_some.mpr ⟨mode, hfile⟩
    · cases congrArg Prod.fst h
    · cases congrArg Prod.fst h
  · cases he
  · exact h.elim

/-- New directories stand where there was nothing. -/
theorem Answers.mkdir {parents existOk : Bool} {r : Except ScriptError Unit} (hplain : path.Plain)
    (h : Answers data (.mkdir path parents existOk) s r t) :
    t q = s q ∨ s q = none ∧ ∃ mode, t q = some (.directory mode) := by
  rcases h with ⟨platform, h⟩ | ⟨e, -, hleaves⟩ | h
  · have hstate := congrArg Prod.snd h
    simp only [handler, mkdirAnswer, reach_of_plain s hplain, makeDirectory] at hstate
    split_ifs at hstate
    all_goals subst hstate
    · exact .inl rfl
    · exact .inl rfl
    · by_cases hq : Above q path ∧ s q = none
      · exact .inr ⟨hq.2, platform.directoryMode, if_pos hq⟩
      · exact .inl (if_neg hq)
    · exact .inl rfl
  · exact hleaves q
  · exact h.elim

/-- A directory that is made, with those above it, or that was there. -/
theorem Answers.mkdir_ok (hplain : path.Plain) (h : Answers data (.mkdir path true true) s (.ok ()) t) :
    ∃ mode, t = s.ensure path mode ∧ t.isDir path := by
  rcases h with ⟨platform, h⟩ | ⟨e, he, -⟩ | h
  · refine ⟨platform.directoryMode, ?_⟩
    simp only [handler, mkdirAnswer, reach_of_plain s hplain, makeDirectory, true_and, true_or,
      and_true] at h
    split_ifs at h with hsome hdir hpassable
    · obtain rfl : s = t := congrArg Prod.snd h
      exact ⟨(ensure_of_isDir hdir).symm, hdir⟩
    · cases congrArg Prod.fst h
    · obtain rfl : s.makeDirectories path platform.directoryMode = t := congrArg Prod.snd h
      have hnone : s path = none := by simpa using hsome
      have hensure : s.ensure path platform.directoryMode =
          s.makeDirectories path platform.directoryMode := if_neg (by simp [isDir, hnone])
      exact ⟨hensure.symm, hensure ▸ ensure_isDir hpassable⟩
    · cases congrArg Prod.fst h
  · cases he
  · exact h.elim

theorem Answers.chmod {r : Except ScriptError Unit} (hplain : path.Plain)
    (h : Answers data (.chmod path mode) s r t) :
    t = s ∧ r ≠ .ok () ∨ t = s.chmod path mode := by
  rcases h with ⟨platform, h⟩ | ⟨e, rfl, hleaves⟩ | h
  · have h : changeMode s mode path = (r, t) := (onPath_of_plain s hplain _).symm.trans h
    unfold changeMode at h
    split_ifs at h
    · exact .inr (congrArg Prod.snd h).symm
    · refine .inl ⟨(congrArg Prod.snd h).symm, ?_⟩
      rintro rfl
      cases congrArg Prod.fst h
  · exact .inl ⟨hleaves, (fun h => by cases h)⟩
  · exact h.elim

/-- What is copied goes to a path that is free or a file's. -/
theorem Answers.copy {r : Except ScriptError Unit} (hp : p.Plain) (hq : q.Plain)
    (h : Answers data (.copy p q) s r t) :
    t = s ∧ r ≠ .ok () ∨ (s q = none ∨ s.isFile q) ∧ ∃ content mode,
      t = Function.update s q (some (.file content mode)) ∧
        (r = .ok () → s p = some (.file content mode)) := by
  rcases h with ⟨platform, h⟩ | ⟨e, rfl, hleaves⟩ | h
  · simp only [handler, onPath_of_plain s hp, onPath_of_plain s hq] at h
    split at h
    · rename_i content mode hfile
      split_ifs at h with hfree
      · exact .inr ⟨hfree.2, content, mode, (congrArg Prod.snd h).symm, fun _ => hfile⟩
      · refine .inl ⟨(congrArg Prod.snd h).symm, ?_⟩
        rintro rfl
        cases congrArg Prod.fst h
    · refine .inl ⟨(congrArg Prod.snd h).symm, ?_⟩
      rintro rfl
      cases congrArg Prod.fst h
  · have hne : (Except.error (ScriptError.raised e) : Except ScriptError Unit) ≠ .ok () :=
      fun h => by cases h
    rcases hleaves with rfl | ⟨q', hreach, hfree, content, mode, rfl⟩
    · exact .inl ⟨rfl, hne⟩
    · rw [reach_of_plain s hq] at hreach
      obtain rfl := Except.ok.inj hreach
      exact .inr ⟨hfree, content, mode, rfl, fun h => absurd h hne⟩
  · exact h.elim

/-- The file that `mkstemp` makes is new. -/
theorem Answers.mkstemp {r : Except ScriptError PosixPath} (hplain : path.Plain)
    (h : Answers data (.mkstemp path.parent s!".{path.name}.") s r t) :
    t = s ∧ (∀ p, r ≠ .ok p) ∨ ∃ name : TempName, r = .ok (tempOf path name) ∧
      (tempOf path name).Plain ∧ s (tempOf path name) = none ∧
        t = Function.update s (tempOf path name) (some (.file .empty 0o600)) := by
  rcases h with ⟨platform, h⟩ | ⟨e, rfl, hleaves⟩ | h
  · have hfresh : (tempOf path (platform.tempName s path.parent s!".{path.name}.")).Plain :=
      Migration.plain_tempPath platform s hplain
    have h := (onPath_of_plain s (Migration.plain_parent hplain) _).symm.trans h
    have h := (onPath_of_plain s hfresh _).symm.trans h
    split_ifs at h with hfree
    · exact .inr ⟨_, (congrArg Prod.fst h).symm, hfresh, hfree.2, (congrArg Prod.snd h).symm⟩
    · refine .inl ⟨(congrArg Prod.snd h).symm, ?_⟩
      rintro p rfl
      cases congrArg Prod.fst h
  · exact .inl ⟨hleaves, (fun p h => by cases h)⟩
  · exact h.elim

/-- A text is written in whole, or the call fails. -/
theorem Answers.write {content : ByteArray} {r : Except ScriptError Unit}
    (h : Answers data (.write path content) s r t) :
    ∃ written, t = s.write path written ∧ (r = .ok () → written = content) := by
  rcases h with ⟨platform, h⟩ | ⟨e, rfl, written, rfl⟩ | h
  · exact ⟨content, (congrArg Prod.snd h).symm, fun _ => rfl⟩
  · exact ⟨written, rfl, (fun h => by cases h)⟩
  · exact h.elim

/-- A file is renamed in whole or not at all. -/
theorem Answers.replace {r : Except ScriptError Unit} (hp : p.Plain) (hq : q.Plain)
    (h : Answers data (.replace p q) s r t) :
    t = s ∧ r ≠ .ok () ∨ r = .ok () ∧ (∃ content mode, s p = some (.file content mode)) ∧
      s.isDir q = false ∧ t = s.rename p q := by
  rcases h with ⟨platform, h⟩ | ⟨e, rfl, hleaves⟩ | h
  · have h := (onPath_of_plain s hp _).symm.trans h
    have h : renameFile s p q = (r, t) := (onPath_of_plain s hq _).symm.trans h
    unfold renameFile at h
    have herror : ∀ message, (osError message, s) = (r, t) → t = s ∧ r ≠ .ok () := by
      rintro message h
      refine ⟨(congrArg Prod.snd h).symm, ?_⟩
      rintro rfl
      cases congrArg Prod.fst h
    split at h
    · rename_i content mode hfile
      split_ifs at h with hdir
      · exact .inl (herror _ h)
      · exact .inr ⟨(congrArg Prod.fst h).symm, ⟨content, mode, hfile⟩, by simpa using hdir,
          (congrArg Prod.snd h).symm⟩
      · exact .inl (herror _ h)
    · exact .inl (herror _ h)
  · exact .inl ⟨hleaves, (fun h => by cases h)⟩
  · exact h.elim

/-- A file that need not be there is gone, or everything is as it was. -/
theorem Answers.unlink {r : Except ScriptError Unit} (hplain : path.Plain)
    (h : Answers data (.unlink path true) s r t) :
    t = s ∧ (r = .ok () → s path = none) ∨ t = s.erase path ∧ s.isDir path = false := by
  rcases h with ⟨platform, h⟩ | ⟨e, rfl, hleaves⟩ | h
  · simp only [handler, reach_of_plain s hplain] at h
    unfold removeFile at h
    split at h
    · rename_i hnone
      exact .inl ⟨(congrArg Prod.snd h).symm, fun _ => hnone⟩
    · refine .inl ⟨(congrArg Prod.snd h).symm, ?_⟩
      rintro rfl
      cases congrArg Prod.fst h
    · rename_i hdir hsome
      refine .inr ⟨(congrArg Prod.snd h).symm, ?_⟩
      rw [Bool.eq_false_iff, ne_eq, isDir_eq_true]
      rintro ⟨m, hm⟩
      exact hdir m (Option.some.inj (hsome.symm.trans hm))
  · exact .inl ⟨hleaves, (fun h => by cases h)⟩
  · exact h.elim

end Calls

end Snarkypuss.Gateway
