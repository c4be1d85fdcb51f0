import Snarkypuss.Calls.Program
import Snarkypuss.Targets.Models

/-!
# Target repositories

The persistence boundary for complete provider catalogues, its two implementations without a
database, and what every implementation promises the daemon.

## Main definitions

* `RepositoryCall`, `targetRepository`: the calls of a repository
* `MemoryTargetRepository`, `YamlTargetRepository`: handlers of the interface
* `RepositoryContract`: a committed catalogue for each provider, which only a replacement that
  succeeds changes

## Main results

* `memoryContract`, `yamlContract`: the two implementations keep the contract
-/

namespace Snarkypuss

/-- The calls of a `TargetRepository`. -/
inductive RepositoryCall
  | getCatalogue (provider : String)
  | replaceCatalogue (provider : String) (expectedRevision : Int) (targets : List StoredTarget)
  deriving DecidableEq

/-- The interface of a repository. -/
abbrev targetRepository : Interface := ⟨RepositoryCall, fun _ => TargetCatalogue⟩

/-- The error of a replacement whose expected revision is not the committed one. -/
def catalogConflict : PyException :=
  .repository "CATALOG_CONFLICT" "Catalogue revision is stale."

/-! ## In memory -/

/-- `self._catalogues.get(provider, TargetCatalogue(provider=provider, revision=0, targets=()))`:
the default is constructed, and its provider name checked, whether or not it is used. -/
def memoryGet (catalogues : Dict String TargetCatalogue) (provider : String) :
    Except PyException TargetCatalogue := do
  let empty ← TargetCatalogue.validate provider 0 []
  pure ((catalogues.get? provider).getD empty)

/-- The checks of `MemoryTargetRepository.replace_catalogue`, up to the assignment. -/
def memoryReplace (catalogues : Dict String TargetCatalogue) (provider : String)
    (expectedRevision : Int) (targets : List StoredTarget) :
    Except PyException TargetCatalogue := do
  let candidate ← TargetCatalogue.validate provider (expectedRevision + 1) targets
  let current ← memoryGet catalogues provider
  if (current.revision : Int) ≠ expectedRevision then
    throw catalogConflict
  pure candidate

/-- `MemoryTargetRepository`: one dictionary of catalogues under a lock. -/
def MemoryTargetRepository : Handler targetRepository PyException (Dict String TargetCatalogue)
  | .getCatalogue provider, catalogues => (memoryGet catalogues provider, catalogues)
  | .replaceCatalogue provider expectedRevision targets, catalogues =>
    match memoryReplace catalogues provider expectedRevision targets with
    | .ok candidate => (.ok candidate, catalogues.insert provider candidate)
    | .error e => (.error e, catalogues)

/-! ## From the YAML configuration -/

/-- `YamlTargetRepository`: the catalogue built when the repository was constructed, read-only. -/
def YamlTargetRepository : Handler targetRepository PyException TargetCatalogue
  | .getCatalogue provider, catalogue =>
    if provider ≠ catalogue.provider then (TargetCatalogue.validate provider 0 [], catalogue)
    else (.ok catalogue, catalogue)
  | .replaceCatalogue .., catalogue =>
    (.error (.repository "READ_ONLY_REPOSITORY"
      "The compatibility YAML target catalogue is read-only."), catalogue)

/-! ## The contract -/

/-- What a repository promises: in every state that meets `Valid` each provider has a committed
catalogue; a read that returns, returns it; a replacement that returns commits its targets under
the next revision; nothing else changes what is committed. -/
structure RepositoryContract {ρ : Type} (repository : Handler targetRepository PyException ρ) where
  Valid : ρ → Prop
  committed : ρ → Identifier → TargetCatalogue
  valid_step : ∀ c s, Valid s → Valid (repository c s).2
  get_eq : ∀ (p : Identifier) s c, Valid s → (repository (.getCatalogue p) s).1 = .ok c →
    c.Same (committed s p)
  get_frame : ∀ p s, Valid s → committed (repository (.getCatalogue p) s).2 = committed s
  replace_eq : ∀ (p : Identifier) expected targets s c, Valid s →
    (repository (.replaceCatalogue p expected targets) s).1 = .ok c →
      c.provider = p ∧ (c.revision : Int) = expected + 1 ∧ c.targets = targets ∧
        (committed (repository (.replaceCatalogue p expected targets) s).2 p).Same c
  replace_frame : ∀ p expected targets s e, Valid s →
    (repository (.replaceCatalogue p expected targets) s).1 = .error e →
      committed (repository (.replaceCatalogue p expected targets) s).2 = committed s

/-- The catalogue a provider has before its first replacement. -/
def TargetCatalogue.initial (provider : Identifier) : TargetCatalogue where
  provider := provider
  revision := 0
  targets := []
  order := by decide

@[simp] theorem TargetCatalogue.validate_initial (p : Identifier) :
    TargetCatalogue.validate p 0 [] = .ok (.initial p) :=
  validate_eq_ok_iff.mpr ⟨rfl, rfl, rfl⟩

theorem memoryGet_identifier (catalogues : Dict String TargetCatalogue) (p : Identifier) :
    memoryGet catalogues p = .ok ((catalogues.get? p).getD (.initial p)) := by
  simp [memoryGet]

/-- A replacement that returns built its candidate and found the expected revision. -/
theorem memoryReplace_ok {catalogues : Dict String TargetCatalogue} {p : Identifier}
    {expected : Int} {targets : List StoredTarget} {c : TargetCatalogue}
    (h : memoryReplace catalogues p expected targets = .ok c) :
    c.provider = p ∧ (c.revision : Int) = expected + 1 ∧ c.targets = targets := by
  unfold memoryReplace at h
  cases hv : TargetCatalogue.validate p (expected + 1) targets with
  | error e => rw [hv] at h; cases h
  | ok candidate =>
    obtain ⟨hp, hr, ht⟩ := TargetCatalogue.validate_eq_ok_iff.mp hv
    rw [hv, memoryGet_identifier] at h
    simp only [bind, Except.bind] at h
    split at h
    · cases h
    · cases h
      exact ⟨Subtype.ext hp, hr, ht⟩

/-- The in-memory repository keeps the contract from every state. -/
def memoryContract : RepositoryContract MemoryTargetRepository where
  Valid _ := True
  committed s p := (s.get? p).getD (.initial p)
  valid_step _ _ _ := trivial
  get_eq p s c _ h := by
    rw [MemoryTargetRepository, memoryGet_identifier] at h
    cases h
    exact .refl _
  get_frame _ _ _ := rfl
  replace_eq p expected targets s c _ h := by
    unfold MemoryTargetRepository at h ⊢
    cases hr : memoryReplace s p expected targets with
    | error e => simp only [hr] at h; cases h
    | ok candidate =>
      simp only [hr] at h ⊢
      cases h
      obtain ⟨hp, hrev, ht⟩ := memoryReplace_ok hr
      refine ⟨hp, hrev, ht, ?_⟩
      rw [Dict.get?_insert, if_pos rfl]
      exact .refl _
  replace_frame p expected targets s e _ h := by
    unfold MemoryTargetRepository at h ⊢
    cases hr : memoryReplace s p expected targets with
    | error e => simp only [hr]
    | ok candidate => simp only [hr] at h; cases h

/-- The YAML repository keeps the contract from every state. -/
def yamlContract : RepositoryContract YamlTargetRepository where
  Valid _ := True
  committed s p := if p = s.provider then s else .initial p
  valid_step _ _ _ := trivial
  get_eq p s c _ h := by
    unfold YamlTargetRepository at h
    by_cases hp : p = s.provider
    · simp only [hp, ne_eq, not_true_eq_false, if_false] at h
      cases h
      rw [if_pos hp]
      exact .refl _
    · have hne : (p : String) ≠ s.provider := fun h => hp (Subtype.ext h)
      simp only [hne, ne_eq, not_false_eq_true, if_true, TargetCatalogue.validate_initial] at h
      cases h
      rw [if_neg hp]
      exact .refl _
  get_frame p s _ := by
    unfold YamlTargetRepository
    by_cases hp : p ≠ s.provider <;> simp [hp]
  replace_eq _ _ _ _ _ _ h := by cases h
  replace_frame _ _ _ _ _ _ _ := rfl

end Snarkypuss
