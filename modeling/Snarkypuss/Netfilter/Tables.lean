import Snarkypuss.Collections.Dict

/-!
# Packet filter tables

Tables of chains of rules, and the commands that change one chain at a time. A table holds its
built-in chains at all times, and no rule names a chain that does not exist. A command is done
as a whole or refused, and a table comes into existence when a command first uses it.

## Main definitions

* `Rule`, `Chain`, `Table`: chains of rules in order, with what the tables keep to as a field
* `Command`, `Command.apply`: the commands on one table
* `Tables`, `Tables.execute`: the tables that exist, and a command on one of them
* `Tables.restore`: replacing the tables that a saved copy names

## Main results

* `apply_check`, `apply_delete`, `apply_append`, `apply_insertFirst`, `apply_flush`,
  `Table.newChain_eq`, `Table.deleteChain_eq`: when a command is done, and what it leaves
* `restore_eq_iff`: when restoring a saved copy gives back the tables it was saved from
-/

namespace Snarkypuss

namespace Netfilter

/-! ## Chains -/

/-- What becomes of a packet that a rule matches. -/
inductive Verdict
  | target (name : String)
  | jump (chain : String)
  | goto (chain : String)
  | continue
  deriving DecidableEq

/-- The chain that a verdict names. -/
def Verdict.chain? : Verdict → Option String
  | jump chain => some chain
  | goto chain => some chain
  | _ => none

/-- A rule: its match options in order, and its verdict. -/
structure Rule where
  options : List String
  verdict : Verdict
  deriving DecidableEq

/-- A rule without match options that jumps to a chain. -/
def Rule.jumpTo (chain : String) : Rule := ⟨[], .jump chain⟩

/-- A chain: the policy of a built-in one, and its rules in order. -/
structure Chain where
  policy : Option String
  rules : List Rule
  deriving DecidableEq

/-! ## Tables -/

inductive TableName
  | filter | nat | mangle | raw | security
  deriving DecidableEq

/-- The built-in chains of a table. -/
def TableName.builtins : TableName → List String
  | filter => ["INPUT", "FORWARD", "OUTPUT"]
  | nat => ["PREROUTING", "INPUT", "OUTPUT", "POSTROUTING"]
  | mangle => ["PREROUTING", "INPUT", "FORWARD", "OUTPUT", "POSTROUTING"]
  | raw => ["PREROUTING", "OUTPUT"]
  | security => ["INPUT", "FORWARD", "OUTPUT"]

/-- What the chains of a table keep to: the built-in chains are those with a policy, and every
chain that a rule names exists. -/
structure WellFormed (name : TableName) (chains : Dict String Chain) : Prop where
  builtin : ∀ c, c ∈ name.builtins ↔ ∃ chain, chains.get? c = some chain ∧ chain.policy.isSome
  resolved : ∀ c chain, chains.get? c = some chain →
    ∀ rule ∈ chain.rules, ∀ d ∈ rule.verdict.chain?, d ∈ chains.keys

/-- A table. -/
structure Table (name : TableName) where
  chains : Dict String Chain
  wellFormed : WellFormed name chains

theorem Table.ext_chains {name : TableName} {t t' : Table name} (h : t.chains = t'.chains) :
    t = t' := by
  cases t
  cases t'
  simp_all

/-- The chains of a table that has just come into existence. -/
def initialChains (name : TableName) : Dict String Chain :=
  Dict.ofPairs (name.builtins.map fun c => (c, ⟨some "ACCEPT", []⟩))

theorem get?_initialChains (name : TableName) (c : String) :
    (initialChains name).get? c = if c ∈ name.builtins then some ⟨some "ACCEPT", []⟩ else none := by
  have hkeys : ((name.builtins.map fun c => (c, (⟨some "ACCEPT", []⟩ : Chain))).map
      Prod.fst).Nodup := by
    rw [List.map_map]
    show (name.builtins.map id).Nodup
    cases name <;> decide
  apply Option.ext
  intro chain
  rw [Dict.get?_eq_some_iff, initialChains, Dict.ofPairs_entries hkeys, List.mem_map]
  by_cases h : c ∈ name.builtins
  · simp [h, Prod.ext_iff, eq_comm]
  · simp [h, Prod.ext_iff]

/-- A table that has just come into existence. -/
def Table.initial (name : TableName) : Table name where
  chains := initialChains name
  wellFormed := by
    constructor
    · intro c
      rw [get?_initialChains]
      by_cases h : c ∈ name.builtins <;> simp [h]
    · intro c chain hc rule hrule
      rw [get?_initialChains] at hc
      split at hc
      · cases hc
        cases hrule
      · cases hc

namespace Table

variable {name : TableName} (t : Table name)

/-! ## Changing one chain -/

/-- Rules that name only chains that exist. -/
def Resolves (rules : List Rule) : Prop :=
  ∀ rule ∈ rules, ∀ d ∈ rule.verdict.chain?, d ∈ t.chains.keys

instance (rules : List Rule) : Decidable (t.Resolves rules) :=
  inferInstanceAs (Decidable (∀ rule ∈ rules, ∀ d ∈ rule.verdict.chain?, d ∈ t.chains.keys))

theorem wellFormed_setRules {c : String} {chain : Chain} {rules : List Rule}
    (hc : t.chains.get? c = some chain) (hrules : t.Resolves rules) :
    WellFormed name (t.chains.insert c { chain with rules := rules }) := by
  have hmem : c ∈ t.chains.keys := Dict.mem_keys_iff.mpr ⟨chain, hc⟩
  constructor
  · intro d
    rw [t.wellFormed.builtin, Dict.get?_insert]
    by_cases h : d = c
    · simp [h, hc]
    · simp [h]
  · intro d chain' hd rule hrule e he
    rw [Dict.keys_insert_of_mem hmem]
    rw [Dict.get?_insert] at hd
    split at hd
    · cases hd
      exact hrules rule hrule e he
    · exact t.wellFormed.resolved d chain' hd rule hrule e he

/-- The table with other rules in a chain, when the chain exists and so do the chains that the
rules name. -/
def setRules (c : String) (f : List Rule → Option (List Rule)) : Option (Table name) :=
  match hc : t.chains.get? c with
  | none => none
  | some chain =>
    match f chain.rules with
    | none => none
    | some rules =>
      if hrules : t.Resolves rules then
        some ⟨t.chains.insert c { chain with rules := rules }, t.wellFormed_setRules hc hrules⟩
      else none

theorem wellFormed_newChain {c : String} (hc : c ∉ t.chains.keys) :
    WellFormed name (t.chains.insert c ⟨none, []⟩) := by
  constructor
  · intro d
    rw [t.wellFormed.builtin, Dict.get?_insert]
    by_cases h : d = c
    · subst h
      simp [Dict.get?_eq_none_iff.mpr hc]
    · simp [h]
  · intro d chain hd rule hrule e he
    rw [Dict.mem_keys_insert]
    rw [Dict.get?_insert] at hd
    split at hd
    · cases hd
      cases hrule
    · exact .inr (t.wellFormed.resolved d chain hd rule hrule e he)

/-- The table with a new chain, when there is none of that name. -/
def newChain (c : String) : Option (Table name) :=
  if hc : c ∉ t.chains.keys then some ⟨t.chains.insert c ⟨none, []⟩, t.wellFormed_newChain hc⟩
  else none

/-- No rule names the chain. -/
def Unreferenced (c : String) : Prop :=
  ∀ chain ∈ t.chains.values, ∀ rule ∈ chain.rules, rule.verdict.chain? ≠ some c

instance (c : String) : Decidable (t.Unreferenced c) :=
  inferInstanceAs (Decidable (∀ chain ∈ t.chains.values, ∀ rule ∈ chain.rules,
    rule.verdict.chain? ≠ some c))

theorem mem_values_of_get? {c : String} {chain : Chain} (h : t.chains.get? c = some chain) :
    chain ∈ t.chains.values :=
  List.mem_map.mpr ⟨(c, chain), Dict.get?_eq_some_iff.mp h, rfl⟩

theorem unreferenced_of_get? {c : String}
    (h : ∀ d chain, t.chains.get? d = some chain → ∀ rule ∈ chain.rules,
      rule.verdict.chain? ≠ some c) : t.Unreferenced c := by
  intro chain hchain
  obtain ⟨e, he, rfl⟩ := List.mem_map.mp hchain
  exact h e.1 e.2 (Dict.get?_eq_some_iff.mpr he)

theorem wellFormed_deleteChain {c : String} (hc : t.chains.get? c = some ⟨none, []⟩)
    (hunreferenced : t.Unreferenced c) : WellFormed name (t.chains.erase c) := by
  constructor
  · intro d
    rw [t.wellFormed.builtin, Dict.get?_erase]
    by_cases h : d = c
    · simp [h, hc]
    · simp [h]
  · intro d chain hd rule hrule e he
    rw [Dict.get?_erase] at hd
    split at hd
    · cases hd
    · rw [Dict.mem_keys_erase]
      refine ⟨?_, t.wellFormed.resolved d chain hd rule hrule e he⟩
      rintro rfl
      exact hunreferenced chain (t.mem_values_of_get? hd) rule hrule he

/-- The table without a chain, when the chain is not built in, is empty, and no rule names it. -/
def deleteChain (c : String) : Option (Table name) :=
  if h : t.chains.get? c = some ⟨none, []⟩ ∧ t.Unreferenced c then
    some ⟨t.chains.erase c, t.wellFormed_deleteChain h.1 h.2⟩
  else none

/-- When rules are changed, and what is left. -/
theorem setRules_eq {c : String} {chain : Chain} {f : List Rule → Option (List Rule)}
    {rules : List Rule} (hc : t.chains.get? c = some chain) (hf : f chain.rules = some rules)
    (hrules : t.Resolves rules) :
    ∃ t', t.setRules c f = some t' ∧
      t'.chains = t.chains.insert c { chain with rules := rules } := by
  unfold setRules
  split
  · rename_i hnone
    rw [hnone] at hc
    cases hc
  · rename_i chain' hsome
    obtain rfl : chain' = chain := Option.some.inj (hsome.symm.trans hc)
    rw [hf]
    exact ⟨_, dif_pos hrules, rfl⟩

/-- When rules of a chain that does not exist are changed. -/
theorem setRules_of_no_chain {c : String} {f : List Rule → Option (List Rule)}
    (hc : t.chains.get? c = none) : t.setRules c f = none := by
  unfold setRules
  split
  · rfl
  · rename_i hsome
    rw [hc] at hsome
    cases hsome

/-- When rules are not changed because of what they are. -/
theorem setRules_of_none {c : String} {chain : Chain} {f : List Rule → Option (List Rule)}
    (hc : t.chains.get? c = some chain) (hf : f chain.rules = none) : t.setRules c f = none := by
  unfold setRules
  split
  · rfl
  · rename_i chain' hsome
    obtain rfl : chain' = chain := Option.some.inj (hsome.symm.trans hc)
    rw [hf]

/-- A chain that is not built in has no policy. -/
theorem policy_of_not_builtin {c : String} {chain : Chain} (hc : t.chains.get? c = some chain)
    (hbuiltin : c ∉ name.builtins) : chain.policy = none := by
  rw [← Option.not_isSome_iff_eq_none]
  exact fun h => hbuiltin ((t.wellFormed.builtin c).mpr ⟨chain, hc, h⟩)

theorem newChain_eq {c : String} (hc : c ∉ t.chains.keys) :
    ∃ t', t.newChain c = some t' ∧ t'.chains = t.chains.insert c ⟨none, []⟩ :=
  ⟨_, dif_pos hc, rfl⟩

theorem deleteChain_eq {c : String} (hc : t.chains.get? c = some ⟨none, []⟩)
    (hunreferenced : t.Unreferenced c) :
    ∃ t', t.deleteChain c = some t' ∧ t'.chains = t.chains.erase c :=
  ⟨_, dif_pos ⟨hc, hunreferenced⟩, rfl⟩

end Table

/-! ## Commands -/

/-- The commands on a table: `-C`, `-D`, `-A`, `-I` at the first place, `-F`, `-N` and `-X`. -/
inductive Command
  | check (chain : String) (rule : Rule)
  | delete (chain : String) (rule : Rule)
  | append (chain : String) (rule : Rule)
  | insertFirst (chain : String) (rule : Rule)
  | flush (chain : String)
  | newChain (chain : String)
  | deleteChain (chain : String)

/-- A command on a table: the table it leaves, or nothing when it is refused. -/
def Command.apply {name : TableName} (t : Table name) : Command → Option (Table name)
  | check c rule => t.setRules c fun rules => if rule ∈ rules then some rules else none
  | delete c rule => t.setRules c fun rules => if rule ∈ rules then some (rules.erase rule) else none
  | append c rule => t.setRules c fun rules => some (rules ++ [rule])
  | insertFirst c rule => t.setRules c fun rules => some (rule :: rules)
  | flush c => t.setRules c fun _ => some []
  | newChain c => t.newChain c
  | deleteChain c => t.deleteChain c

section Apply

variable {name : TableName} {t : Table name} {c : String} {chain : Chain} {rule : Rule}

/-- The chains that the rules of a chain name exist. -/
theorem Table.resolves_of_get? (hc : t.chains.get? c = some chain) : t.Resolves chain.rules :=
  t.wellFormed.resolved c chain hc

/-- A check changes nothing. -/
theorem apply_check (hc : t.chains.get? c = some chain) :
    (Command.check c rule).apply t = if rule ∈ chain.rules then some t else none := by
  by_cases h : rule ∈ chain.rules
  · obtain ⟨t', ht', hchains⟩ := t.setRules_eq
      (f := fun rules => if rule ∈ rules then some rules else none) hc (if_pos h)
      (t.resolves_of_get? hc)
    rw [if_pos h, Command.apply, ht']
    exact congrArg some (Table.ext_chains (hchains.trans (Dict.insert_of_get? hc)))
  · rw [if_neg h, Command.apply]
    exact t.setRules_of_none hc (if_neg h)

theorem apply_delete (hc : t.chains.get? c = some chain) (h : rule ∈ chain.rules) :
    ∃ t', (Command.delete c rule).apply t = some t' ∧
      t'.chains = t.chains.insert c { chain with rules := chain.rules.erase rule } := by
  unfold Command.apply
  refine t.setRules_eq hc (if_pos h) fun r hr => ?_
  exact t.resolves_of_get? hc r (List.mem_of_mem_erase hr)

theorem apply_append (hc : t.chains.get? c = some chain) (h : t.Resolves [rule]) :
    ∃ t', (Command.append c rule).apply t = some t' ∧
      t'.chains = t.chains.insert c { chain with rules := chain.rules ++ [rule] } := by
  unfold Command.apply
  refine t.setRules_eq hc rfl fun r hr => ?_
  rcases List.mem_append.mp hr with hr | hr
  · exact t.resolves_of_get? hc r hr
  · exact h r hr

theorem apply_insertFirst (hc : t.chains.get? c = some chain) (h : t.Resolves [rule]) :
    ∃ t', (Command.insertFirst c rule).apply t = some t' ∧
      t'.chains = t.chains.insert c { chain with rules := rule :: chain.rules } := by
  unfold Command.apply
  refine t.setRules_eq hc rfl fun r hr => ?_
  rcases List.mem_cons.mp hr with rfl | hr
  · exact h r List.mem_cons_self
  · exact t.resolves_of_get? hc r hr

theorem apply_flush (hc : t.chains.get? c = some chain) :
    ∃ t', (Command.flush c).apply t = some t' ∧
      t'.chains = t.chains.insert c { chain with rules := [] } := by
  unfold Command.apply
  exact t.setRules_eq hc rfl fun _ hr => absurd hr List.not_mem_nil

theorem apply_flush_of_no_chain (hc : t.chains.get? c = none) :
    (Command.flush c).apply t = none := by
  unfold Command.apply
  exact t.setRules_of_no_chain hc

theorem apply_deleteChain_of_no_chain (hc : t.chains.get? c = none) :
    (Command.deleteChain c).apply t = none := by
  unfold Command.apply Table.deleteChain
  refine dif_neg fun h => ?_
  rw [hc] at h
  cases h.1

end Apply

/-! ## The tables that exist -/

/-- The tables of the kernel: those that exist. -/
abbrev Tables := (name : TableName) → Option (Table name)

namespace Tables

variable (s : Tables)

/-- The table that a command uses. -/
def use (name : TableName) : Table name := (s name).getD (.initial name)

/-- The tables with one of them replaced. -/
def put {name : TableName} (t : Table name) : Tables := Function.update s name (some t)

@[simp] theorem put_self {name : TableName} (t : Table name) : s.put t name = some t :=
  Function.update_self _ _ _

theorem put_of_ne {name name' : TableName} (h : name' ≠ name) (t : Table name) :
    s.put t name' = s name' :=
  Function.update_of_ne h _ _

theorem use_of_some {s : Tables} {name : TableName} {t : Table name} (h : s name = some t) :
    s.use name = t := by
  rw [use, h]
  rfl

@[simp] theorem use_put {name : TableName} (t : Table name) : (s.put t).use name = t := by
  rw [use, put_self]
  rfl

theorem use_put_of_ne {name name' : TableName} (h : name' ≠ name) (t : Table name) :
    (s.put t).use name' = s.use name' := by
  rw [use, put_of_ne s h, use]

@[simp] theorem put_put {name : TableName} (t t' : Table name) : (s.put t).put t' = s.put t' :=
  Function.update_idem _ _ _

theorem put_comm {name name' : TableName} (h : name ≠ name') (t : Table name) (t' : Table name') :
    (s.put t).put t' = (s.put t').put t :=
  Function.update_comm h _ _ _

/-- A command on one table: whether it was done, and the tables it leaves. A refused command has
used its table too. -/
def execute (name : TableName) (command : Command) : Bool × Tables :=
  match command.apply (s.use name) with
  | some t => (true, s.put t)
  | none => (false, s.put (s.use name))

/-- Replaces exactly the tables that a saved copy names. -/
def restore (saved : Tables) : Tables := fun name => (saved name).orElse fun _ => s name

/-- A command that is done. -/
theorem execute_of_apply {name : TableName} {command : Command} {t : Table name}
    (h : command.apply (s.use name) = some t) : s.execute name command = (true, s.put t) := by
  rw [execute, h]

/-- A command that is refused. -/
theorem execute_of_refused {name : TableName} {command : Command}
    (h : command.apply (s.use name) = none) :
    s.execute name command = (false, s.put (s.use name)) := by
  rw [execute, h]

/-- Restoring a saved copy gives back the tables it was saved from when every table that exists
existed then. -/
theorem restore_eq_iff {saved : Tables} :
    s.restore saved = saved ↔ ∀ name, saved name = none → s name = none := by
  constructor
  · intro h name hnone
    have hname := congrFun h name
    rw [restore, hnone] at hname
    exact hname
  · intro h
    funext name
    cases hname : saved name with
    | none =>
      rw [restore, hname]
      exact h name hname
    | some t =>
      rw [restore, hname]
      rfl

end Tables

end Netfilter

end Snarkypuss
