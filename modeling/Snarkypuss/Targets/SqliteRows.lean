import Snarkypuss.Targets.SqliteTransactions

/-!
# The rows of a catalogue

The rows that a replacement stores are read back as its targets, in their order and with the keys
of their selector documents sorted. What is stored for another provider is read as before.

## Main results

* `Replaced.read`: a replacement is read back
* `Replaced.query_other`: it leaves what is stored for the other providers
* `sqliteContract`: the repository keeps the contract, whatever statements the database refuses
-/

namespace Snarkypuss

open SqliteTargetRepository

/-! ## Lists of fallible computations -/

section MapM

variable {E A B : Type} {f : A → Except E B} {as : List A} {bs : List B}

/-- A computation over a list that returns has returned for each element. -/
theorem forall₂_of_mapM (h : as.mapM f = .ok bs) : List.Forall₂ (fun a b => f a = .ok b) as bs := by
  induction as generalizing bs with
  | nil =>
    cases h
    exact .nil
  | cons a as ih =>
    rw [List.mapM_cons] at h
    cases ha : f a with
    | error e =>
      rw [ha] at h
      cases h
    | ok b =>
      cases has : as.mapM f with
      | error e =>
        rw [ha, has] at h
        cases h
      | ok bs' =>
        rw [ha, has] at h
        cases h
        exact .cons ha (ih has)

end MapM

/-! ## Stored rows -/

section Rows

variable {targets : List StoredTarget} {encoded : List String} {p : String}

theorem provider_of_mem_rows {row : TargetRow} (h : row ∈ targets.zipWith (targetRow p) encoded) :
    row.provider = p := by
  induction targets generalizing encoded with
  | nil => cases h
  | cons target targets ih =>
    cases encoded with
    | nil => cases h
    | cons text encoded =>
      rcases List.mem_cons.mp h with rfl | h
      · rfl
      · exact ih h

theorem map_position_rows (hlength : targets.length = encoded.length) :
    (targets.zipWith (targetRow p) encoded).map TargetRow.position =
      targets.map fun target => (target.position.val : Int) := by
  induction targets generalizing encoded with
  | nil => rfl
  | cons target targets ih =>
    cases encoded with
    | nil => cases hlength
    | cons text encoded =>
      simp only [List.zipWith_cons_cons, List.map_cons]
      rw [ih (Nat.succ.inj hlength)]
      rfl

/-- The rows of targets in order are in order. -/
theorem pairwise_rows (horder : ValidOrder targets) (hlength : targets.length = encoded.length) :
    (targets.zipWith (targetRow p) encoded).Pairwise fun row row' =>
      row.position ≤ row'.position := by
  have hrange : (targets.map fun target => (target.position.val : Int)) =
      (List.range targets.length).map Nat.cast := by
    rw [← horder.2.2, List.map_map]
    rfl
  have hsorted : ((List.range targets.length).map (Nat.cast : ℕ → ℤ)).Pairwise (· ≤ ·) :=
    List.pairwise_map.mpr (List.pairwise_lt_range.imp fun h => Int.ofNat_le.mpr h.le)
  rw [← hrange, ← map_position_rows (p := p) hlength] at hsorted
  exact List.pairwise_map.mp hsorted

end Rows

/-! ## Reading back -/

section Reading

variable {db db' : Database} {candidate : TargetCatalogue} {expectedRevision : Int}
  {encoded : List String} (interpreter : Python.Interpreter) (lax : Json → Option JsonScalar)

/-- The row of a target is read back as the target. -/
theorem readTarget_targetRow {p : String} {target : StoredTarget} {text : String}
    (h : encodeSelector target.selector = .ok text) :
    ∃ target', readTarget interpreter lax (targetRow p target text) = .ok target' ∧
      target'.Same target := by
  obtain ⟨document, hloads, hread⟩ := decode_encodeSelector lax interpreter h
  have hsame : target.selector.sortKeys.Same target.selector := Dict.sortKeys_same _
  have hbounded : boundedSelector target.selector.sortKeys := by
    rw [boundedSelector_same hsame]
    exact target.bounded
  have hvalid : (matchesPattern Char.isLower isLowerTail 31 target.alias.val ∧
      1 ≤ target.label.val.length ∧ target.label.val.length ≤ 100) ∧
      (0 ≤ (target.position.val : Int) ∧ (target.position.val : Int).toNat < maxTargets) ∧
      boundedSelector target.selector.sortKeys :=
    ⟨⟨target.alias.2, target.label.2⟩, ⟨Int.natCast_nonneg _, target.position.2⟩, hbounded⟩
  refine ⟨{ target with selector := target.selector.sortKeys, bounded := hbounded }, ?_,
    rfl, rfl, rfl, hsame⟩
  unfold readTarget
  rw [targetRow, hloads]
  simp only [bind, Except.bind, hread]
  rw [StoredTarget.validate, dif_pos hvalid]
  rfl

/-- The rows of targets are read back as the targets. -/
theorem readTargets_rows {p : String} {targets : List StoredTarget} {encoded : List String}
    (h : List.Forall₂ (fun target text => encodeSelector target.selector = .ok text) targets
      encoded) :
    ∃ targets', (targets.zipWith (targetRow p) encoded).mapM (readTarget interpreter lax) =
      .ok targets' ∧ List.Forall₂ StoredTarget.Same targets' targets := by
  induction h with
  | nil => exact ⟨[], rfl, .nil⟩
  | cons htext _ ih =>
    obtain ⟨target', htarget', hsame⟩ := readTarget_targetRow interpreter lax (p := p) htext
    obtain ⟨targets', htargets', hsames⟩ := ih
    refine ⟨target' :: targets', ?_, .cons hsame hsames⟩
    rw [List.zipWith_cons_cons, List.mapM_cons, htarget', htargets']
    rfl

/-- What equal targets agree on, their lists agree on. -/
theorem map_eq_of_same {X : Type} {f : StoredTarget → X} (hf : ∀ t t', t.Same t' → f t = f t')
    {targets targets' : List StoredTarget} (h : List.Forall₂ StoredTarget.Same targets' targets) :
    targets'.map f = targets.map f := by
  induction h with
  | nil => rfl
  | cons hsame _ ih => rw [List.map_cons, List.map_cons, hf _ _ hsame, ih]

theorem validOrder_same {targets targets' : List StoredTarget}
    (h : List.Forall₂ StoredTarget.Same targets' targets) (horder : ValidOrder targets) :
    ValidOrder targets' := by
  have haliases : (targets'.map fun t => t.alias.val) = targets.map fun t => t.alias.val :=
    map_eq_of_same (fun _ _ hsame => congrArg Subtype.val hsame.alias_eq) h
  have hpositions : (targets'.map fun t => t.position.val) = targets.map fun t => t.position.val :=
    map_eq_of_same (fun _ _ hsame => congrArg Fin.val hsame.position_eq) h
  obtain ⟨hlength, hnodup, hrange⟩ := horder
  refine ⟨h.length_eq ▸ hlength, haliases ▸ hnodup, ?_⟩
  rw [hpositions, hrange, h.length_eq]

/-- The rows of the provider of a replacement. -/
theorem Replaced.rows (h : Replaced candidate expectedRevision encoded db db') :
    db'.rows candidate.provider =
      candidate.targets.zipWith (targetRow candidate.provider) encoded := by
  have hold : (db.targets.filter (·.provider ≠ candidate.provider.val)).filter
      (·.provider = candidate.provider.val) = [] := by
    simp [List.filter_filter]
  have hnew : (candidate.targets.zipWith (targetRow candidate.provider) encoded).filter
      (·.provider = candidate.provider.val) =
        candidate.targets.zipWith (targetRow candidate.provider) encoded :=
    List.filter_eq_self.mpr fun row hrow => decide_eq_true (provider_of_mem_rows hrow)
  rw [Database.rows, h.targets, List.filter_append, hold, hnew, List.nil_append]

/-- The rows of another provider. -/
theorem Replaced.rows_other (h : Replaced candidate expectedRevision encoded db db') {p : String}
    (hp : p ≠ candidate.provider) : db'.rows p = db.rows p := by
  have hold : (db.targets.filter (·.provider ≠ candidate.provider.val)).filter (·.provider = p) =
      db.targets.filter (·.provider = p) := by
    rw [List.filter_filter]
    refine List.filter_congr fun row _ => ?_
    by_cases hrow : row.provider = p
    · simp [hrow, hp]
    · simp [hrow]
  have hnew : (candidate.targets.zipWith (targetRow candidate.provider) encoded).filter
      (·.provider = p) = [] := by
    refine List.filter_eq_nil_iff.mpr fun row hrow => ?_
    rw [provider_of_mem_rows hrow]
    exact fun hsame => hp (of_decide_eq_true hsame).symm
  rw [Database.rows, h.targets, List.filter_append, hold, hnew, List.append_nil, Database.rows]

/-- **What is stored for another provider** is what was stored. -/
theorem Replaced.query_other (h : Replaced candidate expectedRevision encoded db db') {p : String}
    (hp : p ≠ candidate.provider) : db'.query p = db.query p := by
  have hrevision : db'.revisions.get? p = db.revisions.get? p := by
    rw [h.revisions, Dict.get?_insert, if_neg hp]
  rw [Database.query, Database.query, hrevision, Database.selectTargets, Database.selectTargets,
    h.rows_other hp]

/-- What the two queries find after a replacement. -/
theorem Replaced.query (h : Replaced candidate expectedRevision encoded db db')
    (hlength : candidate.targets.length = encoded.length) :
    db'.query candidate.provider = some ((candidate.revision : Int),
      candidate.targets.zipWith (targetRow candidate.provider) encoded) := by
  have hrevision : db'.revisions.get? candidate.provider = some (candidate.revision : Int) := by
    rw [h.revisions, Dict.get?_insert, if_pos rfl]
  rw [Database.query, hrevision, Database.selectTargets, h.rows,
    (pairwise_rows candidate.order hlength).insertionSort_eq]
  rfl

/-- **A replacement is read back.** -/
theorem Replaced.read (h : Replaced candidate expectedRevision encoded db db')
    (hencodes : Encodes candidate.targets encoded) :
    ∃ c, db'.read interpreter lax candidate.provider = .ok c ∧ c.Same candidate := by
  have hencoded := forall₂_of_mapM hencodes.1
  obtain ⟨targets', htargets, hsame⟩ :=
    readTargets_rows interpreter lax (p := candidate.provider) hencoded
  have horder := validOrder_same hsame candidate.order
  refine ⟨⟨candidate.provider, candidate.revision, targets', horder⟩, ?_, rfl, rfl, hsame⟩
  have hvalid : TargetCatalogue.validate candidate.provider candidate.revision targets' =
      .ok ⟨candidate.provider, candidate.revision, targets', horder⟩ :=
    TargetCatalogue.validate_eq_ok_iff.mpr ⟨rfl, rfl, rfl⟩
  rw [Database.read, h.query hencoded.length_eq]
  simp only [readCatalogue, htargets, bind, Except.bind, hvalid]
  rfl

/-- It leaves what is read of the other providers. -/
theorem Replaced.read_other (h : Replaced candidate expectedRevision encoded db db') {p : String}
    (hp : p ≠ candidate.provider) :
    db'.read interpreter lax p = db.read interpreter lax p := by
  rw [Database.read, Database.read, h.query_other hp]

end Reading

/-! ## The contract -/

section Contract

variable {σ : Type} (faults : Faults σ) (interpreter : Python.Interpreter)
  (lax : Json → Option JsonScalar)

/-- Every provider has a catalogue. -/
def Database.Readable (db : Database) : Prop :=
  ∀ p : Identifier, ∃ c, db.read interpreter lax p = .ok c

/-- The catalogue of a provider. -/
def Database.catalogue (db : Database) (p : Identifier) : TargetCatalogue :=
  match db.read interpreter lax p with
  | .ok c => c
  | .error _ => .initial p

variable {interpreter lax}

theorem Database.catalogue_of_read {db : Database} {p : Identifier} {c : TargetCatalogue}
    (h : db.read interpreter lax p = .ok c) : db.catalogue interpreter lax p = c := by
  rw [Database.catalogue, h]

/-- After a replacement every provider still has a catalogue. -/
theorem Replaced.readable {db db' : Database} {candidate : TargetCatalogue}
    {expectedRevision : Int} {encoded : List String}
    (h : Replaced candidate expectedRevision encoded db db')
    (hencodes : Encodes candidate.targets encoded) (hdb : db.Readable interpreter lax) :
    db'.Readable interpreter lax := by
  intro p
  by_cases hp : p = candidate.provider
  · obtain ⟨c, hc, -⟩ := h.read interpreter lax hencodes
    exact ⟨c, hp ▸ hc⟩
  · obtain ⟨c, hc⟩ := hdb p
    exact ⟨c, (h.read_other interpreter lax fun hsame => hp (Subtype.ext hsame)).trans hc⟩

variable (interpreter lax)

/-- What a read amounts to. -/
theorem getCatalogue_reads (p : String) {s : Connection σ} (hs : s.transaction = none) :
    Idle s.committed (SqliteTargetRepository interpreter lax faults (.getCatalogue p) s).2 ∧
      ∀ c, (SqliteTargetRepository interpreter lax faults (.getCatalogue p) s).1 = .ok c →
        s.committed.read interpreter lax p = .ok c :=
  ensures_getCatalogue interpreter lax p s ⟨rfl, hs⟩

/-- What a replacement amounts to, for a provider. -/
theorem replaceCatalogue_replaces (p : String) (expectedRevision : Int)
    (targets : List StoredTarget) {s : Connection σ} (hs : s.transaction = none) :
    Replaces p expectedRevision targets s.committed
      (SqliteTargetRepository interpreter lax faults
        (.replaceCatalogue p expectedRevision targets) s).1
      (SqliteTargetRepository interpreter lax faults
        (.replaceCatalogue p expectedRevision targets) s).2 :=
  ensures_replaceCatalogue p expectedRevision targets s ⟨rfl, hs⟩

/-- **The repository keeps the contract**, whatever statements the database refuses. -/
def sqliteContract : RepositoryContract (SqliteTargetRepository interpreter lax faults) where
  Valid s := s.transaction = none ∧ s.committed.Readable interpreter lax
  committed s p := s.committed.catalogue interpreter lax p
  valid_step c s hs := by
    cases c with
    | getCatalogue p =>
      have hread := getCatalogue_reads faults interpreter lax p hs.1
      exact ⟨hread.1.2, hread.1.1 ▸ hs.2⟩
    | replaceCatalogue p expected targets =>
      rcases replaceCatalogue_replaces faults interpreter lax p expected targets hs.1 with
        ⟨-, hidle⟩ | ⟨candidate, encoded, -, hvalid, hencodes, htransaction, hreplaced⟩
      · exact ⟨hidle.2, hidle.1 ▸ hs.2⟩
      · have htargets := (TargetCatalogue.validate_eq_ok_iff.mp hvalid).2.2
        exact ⟨htransaction, hreplaced.readable (htargets ▸ hencodes) hs.2⟩
  get_eq p s c hs h := by
    have hread := getCatalogue_reads faults interpreter lax p hs.1
    rw [Database.catalogue_of_read (hread.2 c h)]
    exact .refl c
  get_frame p s hs := by
    have hread := getCatalogue_reads faults interpreter lax p hs.1
    exact congrArg (fun db => Database.catalogue interpreter lax db) hread.1.1
  replace_eq p expected targets s c hs h := by
    rcases replaceCatalogue_replaces faults interpreter lax p expected targets hs.1 with
      ⟨⟨e, he⟩, -⟩ | ⟨candidate, encoded, hok, hvalid, hencodes, -, hreplaced⟩
    · cases h.symm.trans he
    · obtain rfl := Except.ok.inj (h.symm.trans hok)
      obtain ⟨hp, hrevision, htargets⟩ := TargetCatalogue.validate_eq_ok_iff.mp hvalid
      have hprovider : c.provider = p := Subtype.ext hp
      obtain ⟨c', hc', hsame⟩ := hreplaced.read interpreter lax (htargets ▸ hencodes)
      refine ⟨hprovider, hrevision, htargets, ?_⟩
      rw [Database.catalogue_of_read (hprovider ▸ hc')]
      exact hsame
  replace_frame p expected targets s e hs h := by
    rcases replaceCatalogue_replaces faults interpreter lax p expected targets hs.1 with
      ⟨-, hidle⟩ | ⟨candidate, encoded, hok, -⟩
    · exact congrArg (fun db => Database.catalogue interpreter lax db) hidle.1
    · cases h.symm.trans hok

end Contract

end Snarkypuss
