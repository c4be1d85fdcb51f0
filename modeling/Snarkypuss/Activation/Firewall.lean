import Snarkypuss.Activation.Scripts
import Snarkypuss.Calls.Logic

/-!
# The owned chains

`apply_firewall` removes the two chains that the scripts own, with every jump to them, and makes
them anew. When nothing but plain jumps from their parents names these chains, it runs to its end
whatever a previous run has left, and what it leaves is a function of the other chains and of the
configuration.

## Main definitions

* `OwnedBy parent chain t`: nothing but plain jumps from `parent` names `chain`
* `strip`, `install`: the chains of a table without an owned chain, and with it made anew
* `Installed`: the tables after `apply_firewall`, in terms of those before it

## Main results

* `applyFirewall_returns`: what `apply_firewall` leaves
* `applyFirewall_owned`: it ends, owns what it changes, and the last application counts
-/

namespace Snarkypuss

namespace Activation

open Netfilter

/-! ## Rules of one chain -/

section Chains

variable (chains : Dict String Chain)

/-- The chains with the rules of one of them changed. -/
def mapRules (c : String) (f : List Rule → List Rule) : Dict String Chain :=
  match chains.get? c with
  | some chain => chains.insert c { chain with rules := f chain.rules }
  | none => chains

/-- The chains without an owned chain and the jumps to it. -/
def strip (parent chain : String) : Dict String Chain :=
  (mapRules chains parent (·.filter (· ≠ .jumpTo chain))).erase chain

/-- The chains with an owned chain at the end and a jump to it before the other rules. -/
def install (parent chain : String) (rules : List Rule) : Dict String Chain :=
  mapRules (chains.insert chain ⟨none, rules⟩) parent (.jumpTo chain :: ·)

end Chains

section Chains

variable {chains : Dict String Chain} {parent chain : String} {p : Chain}

theorem mapRules_of_get? (h : chains.get? parent = some p) (f : List Rule → List Rule) :
    mapRules chains parent f = chains.insert parent { p with rules := f p.rules } := by
  rw [mapRules, h]

theorem get?_mapRules_of_ne {c : String} (h : c ≠ parent) (f : List Rule → List Rule) :
    (mapRules chains parent f).get? c = chains.get? c := by
  unfold mapRules
  split
  · rw [Dict.get?_insert, if_neg h]
  · rfl

theorem keys_mapRules (c : String) (f : List Rule → List Rule) :
    (mapRules chains c f).keys = chains.keys := by
  unfold mapRules
  split
  · rename_i chain hchain
    exact Dict.keys_insert_of_mem (Dict.mem_keys_iff.mpr ⟨chain, hchain⟩) _
  · rfl

/-- Removing the first of equal entries leaves the same others. -/
theorem filter_ne_erase {A : Type} [DecidableEq A] (a : A) (as : List A) :
    (as.erase a).filter (· ≠ a) = as.filter (· ≠ a) := by
  induction as with
  | nil => rfl
  | cons x as ih =>
    by_cases hx : x = a
    · subst hx
      simp
    · rw [List.erase_cons_tail (by simpa using hx)]
      simp only [List.filter_cons, ih]

/-- An owned chain that was made anew is the same after it is made anew again. -/
theorem strip_install (hne : parent ≠ chain) (hparent : chains.get? parent = some p)
    (hclean : .jumpTo chain ∉ p.rules) (hchain : chain ∉ chains.keys) (rules : List Rule) :
    strip (install chains parent chain rules) parent chain = chains := by
  have hparent' : (chains.insert chain ⟨none, rules⟩).get? parent = some p := by
    rw [Dict.get?_insert, if_neg hne, hparent]
  have hfilter : (Rule.jumpTo chain :: p.rules).filter (· ≠ .jumpTo chain) = p.rules := by
    rw [List.filter_cons_of_neg (by simp), List.filter_eq_self]
    intro rule hrule
    exact decide_eq_true fun h => hclean (h ▸ hrule)
  have hback : mapRules (install chains parent chain rules) parent (·.filter (· ≠ .jumpTo chain)) =
      (chains.insert chain ⟨none, rules⟩).insert parent p := by
    rw [install, mapRules_of_get? hparent', mapRules_of_get? (p := ⟨p.policy, _⟩), hfilter,
      Dict.insert_insert]
    rw [Dict.get?_insert, if_pos rfl]
  rw [strip, hback, Dict.erase_insert_of_ne hne, Dict.erase_insert_self,
    Dict.erase_of_not_mem hchain, Dict.insert_of_get? hparent]

end Chains

/-! ## Commands -/

/-- From `s`, a script returns `a` and leaves `s'` when everything that it asks is done. -/
abbrev Runs {A : Type} (platform : Platform) (process : ℕ) (p : Script A) (s : Host) (a : A)
    (s' : Host) : Prop :=
  Program.Returns (platform.handler process) p s a s'

section Commands

variable (platform : Platform) (process : ℕ) (s : Host) {name : TableName}

theorem runs_unchecked (c : Command) :
    Runs platform process (runUnchecked c) s (c.run platform s).1 (c.run platform s).2 :=
  ⟨rfl, rfl⟩

theorem runs_run {c : Command} (h : (c.run platform s).1 = true) :
    Runs platform process (run c) s () (c.run platform s).2 := by
  refine (runs_unchecked platform process s c).bind ?_
  rw [h]
  exact ⟨rfl, rfl⟩

/-- The host with one table replaced. -/
def Host.putTable (s : Host) (t : Table name) : Host := { s with tables := s.tables.put t }

@[simp] theorem use_putTable (t : Table name) : (s.putTable t).tables.use name = t :=
  s.tables.use_put t

@[simp] theorem putTable_putTable (t t' : Table name) :
    (s.putTable t).putTable t' = s.putTable t' := by
  unfold Host.putTable
  rw [Tables.put_put]

theorem run_iptables (command : Netfilter.Command) :
    (Command.iptables name command).run platform s =
      ((command.apply (s.tables.use name)).isSome,
        s.putTable ((command.apply (s.tables.use name)).getD (s.tables.use name))) := by
  simp only [Command.run, Host.putTable]
  cases h : command.apply (s.tables.use name) with
  | none =>
    rw [s.tables.execute_of_refused h]
    rfl
  | some t =>
    rw [s.tables.execute_of_apply h]
    rfl

/-- A command that is done. -/
theorem runs_iptables {command : Netfilter.Command} {t : Table name}
    (h : command.apply (s.tables.use name) = some t) :
    Runs platform process (run (.iptables name command)) s () (s.putTable t) := by
  have hrun : (Command.iptables name command).run platform s = (true, s.putTable t) := by
    rw [run_iptables, h]
    rfl
  have hruns := runs_run platform process s (c := .iptables name command) (by rw [hrun])
  rw [hrun] at hruns
  exact hruns

/-- A command that is done on the table that was left last. -/
theorem runs_iptables_put {command : Netfilter.Command} {t t' : Table name}
    (h : command.apply t = some t') :
    Runs platform process (run (.iptables name command)) (s.putTable t) () (s.putTable t') := by
  have hrun := runs_iptables platform process (s.putTable t) (by rw [use_putTable]; exact h)
  rw [putTable_putTable] at hrun
  exact hrun

/-- A command that may be refused. -/
theorem runs_iptablesUnchecked (name : TableName) (command : Netfilter.Command) :
    Runs platform process (runUnchecked (.iptables name command)) s
      (command.apply (s.tables.use name)).isSome
      (s.putTable ((command.apply (s.tables.use name)).getD (s.tables.use name))) := by
  have hruns := runs_unchecked platform process s (.iptables name command)
  rw [run_iptables] at hruns
  exact hruns

/-- The loop that deletes the jumps to a chain ends after as many rounds as there are jumps. -/
theorem runs_removeJumps {parent chain : String} {fuel : ℕ} {p : Chain}
    (hparent : (s.tables.use name).chains.get? parent = some p)
    (hfuel : p.rules.count (.jumpTo chain) < fuel) :
    ∃ t : Table name, Runs platform process (removeJumps name parent chain fuel) s ()
      (s.putTable t) ∧
      t.chains = mapRules (s.tables.use name).chains parent (·.filter (· ≠ .jumpTo chain)) := by
  induction fuel generalizing s p with
  | zero => omega
  | succ fuel ih =>
    have hcheck := runs_iptablesUnchecked platform process s name (.check parent (.jumpTo chain))
    rw [apply_check hparent] at hcheck
    by_cases hmem : Rule.jumpTo chain ∈ p.rules
    · -- A jump is found and deleted, and one round less is left.
      rw [if_pos hmem] at hcheck
      obtain ⟨t₁, hdelete, hchains₁⟩ := apply_delete hparent hmem
      have hrun := runs_iptables_put platform process s hdelete
      have hparent₁ : ((s.putTable t₁).tables.use name).chains.get? parent =
          some { p with rules := p.rules.erase (.jumpTo chain) } := by
        rw [use_putTable, hchains₁, Dict.get?_insert, if_pos rfl]
      have hfuel₁ : (p.rules.erase (.jumpTo chain)).count (.jumpTo chain) < fuel := by
        have := List.count_pos_iff.mpr hmem
        rw [List.count_erase_self]
        omega
      obtain ⟨t, hrest, hchains⟩ := ih (s.putTable t₁) hparent₁ hfuel₁
      rw [putTable_putTable] at hrest
      refine ⟨t, hcheck.bind (hrun.bind hrest), ?_⟩
      rw [hchains, mapRules_of_get? hparent₁, mapRules_of_get? hparent, use_putTable, hchains₁,
        Dict.insert_insert, filter_ne_erase]
    · -- No jump is left.
      rw [if_neg hmem] at hcheck
      have hclean : p.rules.filter (· ≠ .jumpTo chain) = p.rules := by
        refine List.filter_eq_self.mpr fun rule hrule => decide_eq_true ?_
        rintro rfl
        exact hmem hrule
      refine ⟨s.tables.use name, hcheck.bind ⟨rfl, rfl⟩, ?_⟩
      rw [mapRules_of_get? hparent, hclean, Dict.insert_of_get? hparent]

/-- Nothing but plain jumps from `parent` names `chain`. -/
def OwnedBy (parent chain : String) (t : Table name) : Prop :=
  ∀ c d, t.chains.get? c = some d → ∀ rule ∈ d.rules, rule.verdict.chain? = some chain →
    c = parent ∧ rule = .jumpTo chain

/-- A chain that is neither built in nor named by a rule. -/
theorem unreferenced_of_strip {parent chain : String} {p : Chain} {t t' : Table name}
    (howned : OwnedBy parent chain t) (hparent : t.chains.get? parent = some p)
    (hchains : t'.chains = mapRules t.chains parent (·.filter (· ≠ .jumpTo chain))) {c : String}
    {d : Chain} (hd : t'.chains.get? c = some d) : ∀ rule ∈ d.rules,
      rule.verdict.chain? ≠ some chain := by
  intro rule hrule hnames
  rw [hchains, mapRules_of_get? hparent, Dict.get?_insert] at hd
  split at hd
  · -- In the parent the jumps were filtered out.
    cases hd
    obtain ⟨hmem, hne⟩ := List.mem_filter.mp hrule
    exact of_decide_eq_true hne (howned parent p hparent rule hmem hnames).2
  · rename_i hc
    exact hc (howned c d hd rule hrule hnames).1

/-- The removal of an owned chain ends, and nothing of it is left. -/
theorem runs_removeOwnedChain {parent chain : String} {fuel : ℕ} {p : Chain}
    (hbuiltin : chain ∉ name.builtins)
    (hparent : (s.tables.use name).chains.get? parent = some p)
    (howned : OwnedBy parent chain (s.tables.use name))
    (hfuel : p.rules.count (.jumpTo chain) < fuel) :
    ∃ t : Table name, Runs platform process (removeOwnedChain name parent chain fuel) s ()
      (s.putTable t) ∧ t.chains = strip (s.tables.use name).chains parent chain := by
  obtain ⟨t₁, hjumps, hchains₁⟩ := runs_removeJumps platform process s hparent hfuel
  have hunreferenced := fun c d hd => unreferenced_of_strip (c := c) (d := d) howned hparent hchains₁ hd
  have hflush := runs_iptablesUnchecked platform process (s.putTable t₁) name (.flush chain)
  rw [use_putTable, putTable_putTable] at hflush
  cases hchain : t₁.chains.get? chain with
  | none =>
    -- There is no such chain: both commands are refused.
    rw [apply_flush_of_no_chain hchain] at hflush
    have hdelete := runs_iptablesUnchecked platform process (s.putTable t₁) name (.deleteChain chain)
    rw [use_putTable, putTable_putTable, apply_deleteChain_of_no_chain hchain] at hdelete
    refine ⟨t₁, hjumps.bind (hflush.bind (hdelete.bind ⟨rfl, rfl⟩)), ?_⟩
    rw [hchains₁, strip, Dict.erase_of_not_mem]
    rw [← hchains₁]
    exact Dict.get?_eq_none_iff.mp hchain
  | some d =>
    have hpolicy := t₁.policy_of_not_builtin hchain hbuiltin
    obtain ⟨t₂, happly₂, hchains₂⟩ := apply_flush hchain
    rw [happly₂] at hflush
    have hempty : t₂.chains.get? chain = some ⟨none, []⟩ := by
      rw [hchains₂, Dict.get?_insert, if_pos rfl, hpolicy]
    have hunreferenced₂ : t₂.Unreferenced chain := by
      apply t₂.unreferenced_of_get?
      intro c e he
      rw [hchains₂, Dict.get?_insert] at he
      split at he
      · cases he
        exact fun rule hrule => absurd hrule List.not_mem_nil
      · exact hunreferenced c e he
    obtain ⟨t₃, happly₃, hchains₃⟩ := t₂.deleteChain_eq hempty hunreferenced₂
    have hdelete := runs_iptablesUnchecked platform process (s.putTable t₂) name (.deleteChain chain)
    rw [use_putTable, putTable_putTable, Command.apply, happly₃] at hdelete
    refine ⟨t₃, hjumps.bind (hflush.bind (hdelete.bind ⟨rfl, rfl⟩)), ?_⟩
    rw [hchains₃, hchains₂, Dict.erase_insert_self, hchains₁, strip]

/-- Rules that name no chain. -/
def NamesNoChain (rules : List Rule) : Prop := ∀ rule ∈ rules, rule.verdict.chain? = none

/-- Rules that are appended to a chain follow those that are there. -/
theorem runs_appendRules {chain : String} {rules : List Rule} (hrules : NamesNoChain rules)
    {t : Table name} {before : List Rule} (hchain : t.chains.get? chain = some ⟨none, before⟩) :
    ∃ t' : Table name, Runs platform process (appendRules name chain rules) (s.putTable t) ()
      (s.putTable t') ∧ t'.chains = t.chains.insert chain ⟨none, before ++ rules⟩ := by
  induction rules generalizing t before with
  | nil =>
    refine ⟨t, ⟨rfl, rfl⟩, ?_⟩
    rw [List.append_nil, Dict.insert_of_get? hchain]
  | cons rule rules ih =>
    have hresolves : t.Resolves [rule] := by
      intro r hr d hd
      rw [List.mem_singleton.mp hr, hrules rule List.mem_cons_self] at hd
      cases hd
    obtain ⟨t₁, happly, hchains₁⟩ := apply_append hchain hresolves
    have hrun := runs_iptables_put platform process s happly
    have hchain₁ : t₁.chains.get? chain = some ⟨none, before ++ [rule]⟩ := by
      rw [hchains₁, Dict.get?_insert, if_pos rfl]
    obtain ⟨t', hrest, hchains⟩ := ih (fun r hr => hrules r (List.mem_cons_of_mem _ hr)) hchain₁
    refine ⟨t', hrun.bind hrest, ?_⟩
    rw [hchains, hchains₁, Dict.insert_insert, List.append_assoc]
    rfl

/-- An owned chain is made anew. -/
theorem runs_createOwnedChain {parent chain : String} {rules : List Rule} {p : Chain}
    (hne : parent ≠ chain) (hrules : NamesNoChain rules) {t : Table name}
    (hparent : t.chains.get? parent = some p) (hchain : chain ∉ t.chains.keys) :
    ∃ t' : Table name, Runs platform process (createOwnedChain name parent chain rules)
      (s.putTable t) () (s.putTable t') ∧ t'.chains = install t.chains parent chain rules := by
  obtain ⟨t₁, happly₁, hchains₁⟩ := t.newChain_eq hchain
  have hnew : Runs platform process (run (.iptables name (.newChain chain))) (s.putTable t) ()
    (s.putTable t₁) := runs_iptables_put platform process s happly₁
  have hchain₁ : t₁.chains.get? chain = some ⟨none, []⟩ := by
    rw [hchains₁, Dict.get?_insert, if_pos rfl]
  obtain ⟨t₂, happend, hchains₂⟩ := runs_appendRules platform process s hrules hchain₁
  rw [hchains₁, Dict.insert_insert, List.nil_append] at hchains₂
  have hparent₂ : t₂.chains.get? parent = some p := by
    rw [hchains₂, Dict.get?_insert, if_neg hne, hparent]
  have hresolves : t₂.Resolves [.jumpTo chain] := by
    intro r hr d hd
    rw [List.mem_singleton.mp hr] at hd
    obtain rfl : chain = d := Option.some.inj hd
    rw [hchains₂]
    exact Dict.mem_keys_insert.mpr (.inl rfl)
  obtain ⟨t₃, happly₃, hchains₃⟩ := apply_insertFirst hparent₂ hresolves
  refine ⟨t₃, hnew.bind (happend.bind (runs_iptables_put platform process s happly₃)), ?_⟩
  rw [hchains₃, install, ← hchains₂, mapRules_of_get? hparent₂]

end Commands

/-! ## The whole firewall -/

/-- Nothing but plain jumps from `FORWARD` and `POSTROUTING` names the owned chains. -/
def OwnedOnly (tables : Tables) : Prop :=
  OwnedBy "FORWARD" forwardChain (tables.use .filter) ∧
    OwnedBy "POSTROUTING" natChain (tables.use .nat)

/-- The number of plain jumps from `parent` to `chain`. -/
def jumpCount (parent chain : String) {name : TableName} (t : Table name) : ℕ :=
  (((t.chains.get? parent).map Chain.rules).getD []).count (.jumpTo chain)

/-- The number of jumps to the owned chains. -/
def ownedJumps (tables : Tables) : ℕ :=
  jumpCount "FORWARD" forwardChain (tables.use .filter) +
    jumpCount "POSTROUTING" natChain (tables.use .nat)

/-- One table after its owned chain was made anew. -/
def Renewed (parent chain : String) (rules : List Rule) {name : TableName} (t t' : Table name) :
    Prop :=
  t'.chains = install (strip t.chains parent chain) parent chain rules

/-- The tables after `apply_firewall`. -/
structure Installed (config : ActivationConfig) (tables tables' : Tables) : Prop where
  filter : ∃ t, tables' .filter = some t ∧
    Renewed "FORWARD" forwardChain (forwardRules config) (tables.use .filter) t
  nat : ∃ t, tables' .nat = some t ∧
    Renewed "POSTROUTING" natChain (natRules config) (tables.use .nat) t
  others : ∀ name, name ≠ .filter → name ≠ .nat → tables' name = tables name

section Firewall

variable (platform : Platform) (process : ℕ)

/-- A built-in chain. -/
theorem exists_builtin {name : TableName} (t : Table name) {c : String} (hc : c ∈ name.builtins) :
    ∃ p, t.chains.get? c = some p := by
  obtain ⟨p, hp, -⟩ := (t.wellFormed.builtin c).mp hc
  exact ⟨p, hp⟩

theorem namesNoChain_forwardRules (config : ActivationConfig) :
    NamesNoChain (forwardRules config) := by
  simp [NamesNoChain, forwardRules, Verdict.chain?]

theorem namesNoChain_natRules (config : ActivationConfig) : NamesNoChain (natRules config) := by
  simp [NamesNoChain, natRules, Verdict.chain?]

theorem Host.putTable_comm (s : Host) {name name' : TableName} (h : name ≠ name')
    (t : Table name) (t' : Table name') : (s.putTable t).putTable t' = (s.putTable t').putTable t := by
  unfold Host.putTable
  rw [Tables.put_comm s.tables h]

/-- The parent of a chain after the chain was stripped. -/
theorem get?_strip {chains : Dict String Chain} (parent chain : String) {p : Chain}
    (hne : parent ≠ chain) (hp : chains.get? parent = some p) :
    (strip chains parent chain).get? parent =
      some { p with rules := p.rules.filter (· ≠ .jumpTo chain) } := by
  rw [strip, Dict.get?_erase, if_neg hne, mapRules_of_get? hp, Dict.get?_insert, if_pos rfl]

theorem not_mem_keys_strip (chains : Dict String Chain) (parent chain : String) :
    chain ∉ (strip chains parent chain).keys := by
  rw [strip, Dict.mem_keys_erase]
  exact fun h => h.1 rfl

/-- `apply_firewall` runs to its end when its loops are followed for long enough. -/
theorem runs_applyFirewall (s : Host) (config : ActivationConfig) {fuel : ℕ}
    (howned : OwnedOnly s.tables) (hfuel : ownedJumps s.tables < fuel) :
    ∃ tables, Runs platform process (applyFirewall fuel config) s () { s with tables := tables } ∧
      Installed config s.tables tables := by
  obtain ⟨p, hp⟩ := exists_builtin (s.tables.use .filter) (c := "FORWARD") (by decide)
  obtain ⟨q, hq⟩ := exists_builtin (s.tables.use .nat) (c := "POSTROUTING") (by decide)
  have hfuels : p.rules.count (.jumpTo forwardChain) < fuel ∧
      q.rules.count (.jumpTo natChain) < fuel := by
    rw [ownedJumps, jumpCount, jumpCount, hp, hq] at hfuel
    simp only [Option.map_some, Option.getD_some] at hfuel
    omega
  -- Both chains are removed,
  obtain ⟨f₁, hf₁, hchainsf₁⟩ := runs_removeOwnedChain platform process s (by decide) hp howned.1
    hfuels.1
  have hnat : (s.putTable f₁).tables.use .nat = s.tables.use .nat :=
    s.tables.use_put_of_ne (by decide) f₁
  have hq' : ((s.putTable f₁).tables.use .nat).chains.get? "POSTROUTING" = some q := by
    rw [hnat]
    exact hq
  obtain ⟨n₁, hn₁, hchainsn₁⟩ := runs_removeOwnedChain platform process (s.putTable f₁)
    (by decide) hq' (by rw [hnat]; exact howned.2) hfuels.2
  rw [hnat] at hchainsn₁
  -- then both are made anew.
  have hne : "FORWARD" ≠ forwardChain := by decide
  have hne' : "POSTROUTING" ≠ natChain := by decide
  have hpf₁ := get?_strip "FORWARD" forwardChain hne hp
  have hqn₁ := get?_strip "POSTROUTING" natChain hne' hq
  rw [← hchainsf₁] at hpf₁
  rw [← hchainsn₁] at hqn₁
  obtain ⟨f₂, hf₂, hchainsf₂⟩ := runs_createOwnedChain platform process (s.putTable n₁)
    hne (namesNoChain_forwardRules config) hpf₁
    (by rw [hchainsf₁]; exact not_mem_keys_strip _ _ _)
  obtain ⟨n₂, hn₂, hchainsn₂⟩ := runs_createOwnedChain platform process (s.putTable f₂)
    hne' (namesNoChain_natRules config) hqn₁
    (by rw [hchainsn₁]; exact not_mem_keys_strip _ _ _)
  rw [s.putTable_comm (by decide)] at hn₁
  rw [s.putTable_comm (by decide) n₁ f₂] at hf₂
  refine ⟨(s.tables.put f₂).put n₂, (hf₁.bind hn₁).bind (hf₂.bind hn₂), ?_⟩
  constructor
  · refine ⟨f₂, ?_, ?_⟩
    · rw [Tables.put_of_ne _ (by decide), Tables.put_self]
    · rw [Renewed, hchainsf₂, hchainsf₁]
  · refine ⟨n₂, Tables.put_self _ _, ?_⟩
    rw [Renewed, hchainsn₂, hchainsn₁]
  · intro name hfilter hnat
    rw [Tables.put_of_ne _ hnat, Tables.put_of_ne _ hfilter]

/-- The tables after `apply_firewall` are determined by those before it. -/
theorem Installed.unique {config : ActivationConfig} {tables tables' tables'' : Tables}
    (h : Installed config tables tables') (h' : Installed config tables tables'') :
    tables' = tables'' := by
  obtain ⟨f, hf, hrenewedf⟩ := h.filter
  obtain ⟨f', hf', hrenewedf'⟩ := h'.filter
  obtain ⟨n, hn, hrenewedn⟩ := h.nat
  obtain ⟨n', hn', hrenewedn'⟩ := h'.nat
  funext name
  by_cases hfilter : name = .filter
  · subst hfilter
    rw [hf, hf', Table.ext_chains (hrenewedf.trans hrenewedf'.symm)]
  · by_cases hnat : name = .nat
    · subst hnat
      rw [hn, hn', Table.ext_chains (hrenewedn.trans hrenewedn'.symm)]
    · rw [h.others name hfilter hnat, h'.others name hfilter hnat]

/-- Every number of rounds that is large enough leaves the same tables. -/
theorem runs_applyFirewall_forall (s : Host) (config : ActivationConfig)
    (howned : OwnedOnly s.tables) :
    ∃ tables, Installed config s.tables tables ∧ ∀ fuel, ownedJumps s.tables < fuel →
      Runs platform process (applyFirewall fuel config) s () { s with tables := tables } := by
  obtain ⟨tables, -, hinstalled⟩ :=
    runs_applyFirewall platform process s config howned (Nat.lt_succ_self _)
  refine ⟨tables, hinstalled, fun fuel hfuel => ?_⟩
  obtain ⟨tables', hruns, hinstalled'⟩ := runs_applyFirewall platform process s config howned hfuel
  rw [hinstalled.unique hinstalled']
  exact hruns

end Firewall

/-! ## What is owned -/

/-- What a reader of the tables finds: the owned chain holds its rules and is jumped to once, from
the first place of its parent; every other chain and rule is what it was, in the same order. -/
structure Owns (parent chain : String) (rules : List Rule) {name : TableName} (t t' : Table name) :
    Prop where
  held : t'.chains.get? chain = some ⟨none, rules⟩
  jump : ∃ p, t.chains.get? parent = some p ∧ t'.chains.get? parent =
    some { p with rules := .jumpTo chain :: p.rules.filter (· ≠ .jumpTo chain) }
  references : OwnedBy parent chain t'
  once : jumpCount parent chain t' = 1
  others : ∀ c, c ≠ chain → c ≠ parent → t'.chains.get? c = t.chains.get? c
  order : t'.chains.keys.filter (· ≠ chain) = t.chains.keys.filter (· ≠ chain)

section Owns

variable {parent chain : String} {rules : List Rule} {name : TableName} {t t' : Table name}

theorem get?_install (rules : List Rule) {chains : Dict String Chain} {p : Chain}
    (hne : parent ≠ chain) (hp : chains.get? parent = some p) (c : String) :
    (install chains parent chain rules).get? c =
      if c = parent then some { p with rules := .jumpTo chain :: p.rules }
      else if c = chain then some ⟨none, rules⟩ else chains.get? c := by
  have hparent : (chains.insert chain ⟨none, rules⟩).get? parent = some p := by
    rw [Dict.get?_insert, if_neg hne, hp]
  rw [install, mapRules_of_get? hparent, Dict.get?_insert, Dict.get?_insert]

/-- A table whose owned chain was made anew owns it. -/
theorem Renewed.owns (hrenewed : Renewed parent chain rules t t') (hne : parent ≠ chain)
    (hparent : parent ∈ name.builtins) (hrules : NamesNoChain rules)
    (howned : OwnedBy parent chain t) : Owns parent chain rules t t' := by
  obtain ⟨p, hp⟩ := exists_builtin t hparent
  have hget := fun c => get?_install rules hne (get?_strip parent chain hne hp) c
  rw [← hrenewed] at hget
  have hothers : ∀ c, c ≠ chain → c ≠ parent → t'.chains.get? c = t.chains.get? c := by
    intro c hchain hparent
    rw [hget, if_neg hparent, if_neg hchain, strip, Dict.get?_erase, if_neg hchain,
      get?_mapRules_of_ne hparent]
  have hparent' := hget parent
  rw [if_pos rfl] at hparent'
  constructor
  · rw [hget, if_neg (Ne.symm hne), if_pos rfl]
  · exact ⟨p, hp, hparent'⟩
  · intro c d hd rule hrule hnames
    rw [hget] at hd
    split at hd
    · rename_i hc
      subst hc
      cases hd
      rcases List.mem_cons.mp hrule with rfl | hrule
      · exact ⟨rfl, rfl⟩
      · exact howned _ p hp rule (List.mem_of_mem_filter hrule) hnames
    · rename_i hc
      split at hd
      · cases hd
        rw [hrules rule hrule] at hnames
        cases hnames
      · rename_i hchain
        have hold : t.chains.get? c = some d := by
          rw [← hothers c hchain hc, hget, if_neg hc, if_neg hchain, hd]
        exact howned c d hold rule hrule hnames
  · rw [jumpCount, hparent']
    simp only [Option.map_some, Option.getD_some, List.count_cons_self]
    have hzero : (p.rules.filter (· ≠ .jumpTo chain)).count (.jumpTo chain) = 0 :=
      List.count_eq_zero_of_not_mem fun h => of_decide_eq_true (List.mem_filter.mp h).2 rfl
    omega
  · exact hothers
  · rw [hrenewed, install, keys_mapRules, Dict.keys_insert_of_not_mem (not_mem_keys_strip _ _ _),
      strip, Dict.keys_erase, keys_mapRules]
    simp [List.filter_filter]

/-- A chain that was made anew is stripped to what it was stripped to before. -/
theorem Renewed.strip_eq (hrenewed : Renewed parent chain rules t t') (hne : parent ≠ chain)
    (hparent : parent ∈ name.builtins) :
    strip t'.chains parent chain = strip t.chains parent chain := by
  obtain ⟨p, hp⟩ := exists_builtin t hparent
  rw [hrenewed]
  refine strip_install hne (get?_strip parent chain hne hp) ?_ (not_mem_keys_strip _ _ _) rules
  exact fun h => of_decide_eq_true (List.mem_filter.mp h).2 rfl

end Owns

/-- What `apply_firewall` does to the tables, in terms of a reader of them. -/
structure OwnsFirewall (config : ActivationConfig) (tables tables' : Tables) : Prop where
  filter : Owns "FORWARD" forwardChain (forwardRules config) (tables.use .filter)
    (tables'.use .filter)
  nat : Owns "POSTROUTING" natChain (natRules config) (tables.use .nat) (tables'.use .nat)
  others : ∀ name, name ≠ .filter → name ≠ .nat → tables' name = tables name

theorem Installed.owns {config : ActivationConfig} {tables tables' : Tables}
    (h : Installed config tables tables') (howned : OwnedOnly tables) :
    OwnsFirewall config tables tables' := by
  obtain ⟨f, hf, hrenewedf⟩ := h.filter
  obtain ⟨n, hn, hrenewedn⟩ := h.nat
  refine ⟨?_, ?_, h.others⟩
  · rw [Tables.use_of_some hf]
    exact hrenewedf.owns (by decide) (by decide) (namesNoChain_forwardRules config) howned.1
  · rw [Tables.use_of_some hn]
    exact hrenewedn.owns (by decide) (by decide) (namesNoChain_natRules config) howned.2

/-- Of two applications one after the other the last one counts. -/
theorem Installed.trans {config config' : ActivationConfig} {tables tables' tables'' : Tables}
    (h : Installed config tables tables') (h' : Installed config' tables' tables'') :
    Installed config' tables tables'' := by
  obtain ⟨f, hf, hrenewedf⟩ := h.filter
  obtain ⟨n, hn, hrenewedn⟩ := h.nat
  obtain ⟨f', hf', hrenewedf'⟩ := h'.filter
  obtain ⟨n', hn', hrenewedn'⟩ := h'.nat
  refine ⟨⟨f', hf', ?_⟩, ⟨n', hn', ?_⟩, ?_⟩
  · rw [Tables.use_of_some hf, Renewed] at hrenewedf'
    rw [Renewed, hrenewedf', hrenewedf.strip_eq (by decide) (by decide)]
  · rw [Tables.use_of_some hn, Renewed] at hrenewedn'
    rw [Renewed, hrenewedn', hrenewedn.strip_eq (by decide) (by decide)]
  · intro name hfilter hnat
    rw [h'.others name hfilter hnat, h.others name hfilter hnat]

/-- **`apply_firewall` owns what it changes.** When nothing but plain jumps from `FORWARD` and
`POSTROUTING` names the owned chains, its loops end and no command fails, the owned chains hold
the rules of the configuration and are jumped to once, from the first place, and nothing else
has changed; and another application leaves what it would have left without this one. -/
theorem applyFirewall_owned (platform : Platform) (process : ℕ) (config : ActivationConfig)
    (s : Host) (howned : OwnedOnly s.tables) :
    ∃ tables, (∀ fuel, ownedJumps s.tables < fuel →
        Runs platform process (applyFirewall fuel config) s () { s with tables := tables }) ∧
      OwnsFirewall config s.tables tables ∧
      ∀ config', ∃ tables',
        (∀ fuel, 2 < fuel → Runs platform process (applyFirewall fuel config')
          { s with tables := tables } () { s with tables := tables' }) ∧
        ∀ fuel, ownedJumps s.tables < fuel → Runs platform process (applyFirewall fuel config')
          s () { s with tables := tables' } := by
  obtain ⟨tables, hinstalled, hruns⟩ := runs_applyFirewall_forall platform process s config howned
  have howns := hinstalled.owns howned
  refine ⟨tables, hruns, howns, fun config' => ?_⟩
  obtain ⟨tables', hinstalled', hruns'⟩ := runs_applyFirewall_forall platform process s config' howned
  obtain ⟨again, hagain, hrunsAgain⟩ := runs_applyFirewall_forall platform process
    { s with tables := tables } config' ⟨howns.filter.references, howns.nat.references⟩
  have hjumps : ownedJumps tables = 2 := by
    rw [ownedJumps, howns.filter.once, howns.nat.once]
  rw [hjumps] at hrunsAgain
  rw [(hinstalled.trans hagain).unique hinstalled'] at hrunsAgain
  exact ⟨tables', hrunsAgain, hruns'⟩

/-! ### A first application -/

/-- A host without tables, services or files. -/
def bareHost : Host where
  tables _ := none
  ipForward := "0"
  services _ := ⟨false, false⟩
  files _ := none
  records _ := none
  timers _ := false
  spawned := []
  locks _ := none
  euid := 0

/-- A platform whose DNS unit requires the tunnel `wg0`. -/
def barePlatform : Platform := ⟨"wg0", fun _ => ""⟩

def bareConfig : ActivationConfig := ⟨"wg0", "nordlynx", "10.8.0.0/24"⟩

/-- Nothing names a chain in tables that do not exist yet. -/
theorem ownedOnly_bareHost : OwnedOnly bareHost.tables := by
  have hnone : ∀ (parent chain : String) (name : TableName),
      OwnedBy parent chain (Table.initial name) := by
    intro parent chain name c d hd rule hrule
    show rule.verdict.chain? = some chain → _
    have hget : (initialChains name).get? c = some d := hd
    rw [get?_initialChains] at hget
    split at hget
    · cases hget
      cases hrule
    · cases hget
  exact ⟨hnone _ _ _, hnone _ _ _⟩

theorem applyFirewall_owned_bare :
    ∃ tables, (∀ fuel, 0 < fuel → Runs barePlatform 0 (applyFirewall fuel bareConfig) bareHost ()
        { bareHost with tables := tables }) ∧
      OwnsFirewall bareConfig bareHost.tables tables := by
  obtain ⟨tables, hruns, howns, -⟩ :=
    applyFirewall_owned barePlatform 0 bareConfig bareHost ownedOnly_bareHost
  exact ⟨tables, hruns, howns⟩

end Activation

end Snarkypuss
