import Mathlib.Data.Finset.Card
import Mathlib.Data.List.Sort
import Mathlib.Order.OrderDual
import SourceAudit.Proofs.Report.Deduplicate
import SourceAudit.Proofs.Report.Order

/-!
# SourceAudit.Proofs.Report.Ranking

Recommendations as the first distinct texts of a ranking. Each rule with findings calls for a text,
and the rules are ranked by falling priority and then by id. The ranking is fixed by the findings
whatever their order, as long as what the report says of a finding goes with its rule.

* `Ranks` — a list ranks what all rules with findings call for;
* `addDistinct_eq_take` — stopping early leaves out nothing that would have come first;
* `secret_iff` — the number of findings never lifts a rule above the rules for secrets;
* `recommend_ranked` — what the recommendations are.
-/

namespace SourceAudit

namespace Report

variable {f g : Finding} {findings findings' : List Finding} {a b : Advice}
  {ranked ranked' : List Advice}

/-! ## Stopping early -/

/-- Adding texts until there are enough of them gives the first of the distinct ones. -/
theorem addDistinct_eq_take {limit : Int} {done : List String} (hdone : done.Nodup)
    (hroom : done.length < limit) (ts : List String) :
    addDistinct limit done ts = ((done ++ ts).eraseDups).take limit.toNat := by
  induction ts generalizing done with
  | nil =>
      rw [addDistinct, List.append_nil, eraseDups_of_nodup hdone, List.take_of_length_le (by omega)]
  | cons t ts ih =>
      have hnext : (if done.contains t then done else done ++ [t]) = (done ++ [t]).eraseDups := by
        rw [eraseDups_concat, eraseDups_of_nodup hdone]
        simp only [List.contains_iff_mem]
      rw [addDistinct, hnext]
      have hall : ((done ++ [t]).eraseDups ++ ts).eraseDups = (done ++ t :: ts).eraseDups := by
        rw [eraseDups_eraseDups_append, List.append_assoc, List.singleton_append]
      have hnodup := nodup_eraseDups (done ++ [t])
      split
      · next henough =>
        have hlength : (done ++ [t]).eraseDups.length = limit.toNat := by
          have hle : (done ++ [t]).eraseDups.length ≤ done.length + 1 := by
            rw [← hnext]
            split <;> simp
          omega
        rw [← hall]
        generalize (done ++ [t]).eraseDups = kept at hnodup hlength ⊢
        rw [List.eraseDups_append, eraseDups_of_nodup hnodup, List.take_left' hlength]
      · next hmore => rw [ih hnodup (by omega), hall]

/-! ## What the rules call for -/

/-- What the report says of a finding goes with its rule. -/
def DecidedByRule (findings : List Finding) : Prop :=
  ∀ f ∈ findings, ∀ g ∈ findings, f.ruleId = g.ruleId → f.severity = g.severity ∧
    f.category = g.category ∧ f.title = g.title ∧ f.recommendation = g.recommendation

/-- What the findings of the rule of a finding call for. -/
def adviceOf (findings : List Finding) (f : Finding) : Advice :=
  let count := findings.countP (·.ruleId = f.ruleId)
  ⟨priority f.severity f.category count, f.ruleId, groupText f count⟩

@[simp]
theorem ruleId_adviceOf (findings : List Finding) (f : Finding) :
    (adviceOf findings f).ruleId = f.ruleId := rfl

/-- Findings of one rule have one advice. -/
theorem adviceOf_congr (hrules : DecidedByRule findings) (hf : f ∈ findings) (hg : g ∈ findings)
    (hfg : f.ruleId = g.ruleId) : adviceOf findings f = adviceOf findings g := by
  obtain ⟨hseverity, hcategory, htitle, hrecommendation⟩ := hrules f hf g hg hfg
  simp only [adviceOf, groupText, ruleText, hseverity, hcategory, htitle, hrecommendation, hfg]

/-- It does not depend on the order of the findings. -/
theorem adviceOf_perm (hperm : findings'.Perm findings) (f : Finding) :
    adviceOf findings' f = adviceOf findings f := by
  rw [adviceOf, hperm.countP_eq]
  rfl

theorem ruleId_of_adviceFor? {id : String} (h : adviceFor? findings id = some a) :
    a.ruleId = id := by
  unfold adviceFor? at h
  split at h
  · simp at h
  · obtain rfl := Option.some.inj h
    rfl

/-- What a rule calls for is told by any of its findings. -/
theorem adviceFor?_of_mem (hrules : DecidedByRule findings) (hf : f ∈ findings) :
    adviceFor? findings f.ruleId = some (adviceOf findings f) := by
  have hmem : f ∈ ofRule findings f.ruleId := List.mem_filter.mpr ⟨hf, decide_eq_true rfl⟩
  unfold adviceFor?
  cases hrule : ofRule findings f.ruleId with
  | nil =>
      rw [hrule] at hmem
      exact absurd hmem List.not_mem_nil
  | cons g gs =>
      have hg : g ∈ ofRule findings f.ruleId := hrule ▸ List.mem_cons_self
      obtain ⟨hg, hgf⟩ := List.mem_filter.mp hg
      have hgf := of_decide_eq_true hgf
      rw [← adviceOf_congr hrules hg hf hgf, adviceOf, List.countP_eq_length_filter, hgf]
      simp only [← hrule]
      rfl

/-! ## Rankings -/

/-- One piece of advice stands above another: it has more priority, or as much and a lesser id. -/
def Above (a b : Advice) : Prop :=
  b.priority < a.priority ∨ a.priority = b.priority ∧ a.ruleId < b.ruleId

/-- The list ranks what all rules with findings call for. -/
structure Ranks (findings : List Finding) (ranked : List Advice) : Prop where
  mem : ∀ a, a ∈ ranked ↔ ∃ f ∈ findings, a = adviceOf findings f
  order : ranked.Pairwise Above

/-- What decides the order of advice. -/
def rankKey (a : Advice) : ℕᵒᵈ ×ₗ String := toLex (OrderDual.toDual a.priority, a.ruleId)

/-- The ranking is one by keys. -/
theorem above_iff : Above a b ↔ rankKey a < rankKey b := by
  simp only [Above, rankKey, Prod.Lex.lt_iff, ofLex_toLex, OrderDual.toDual_lt_toDual,
    OrderDual.toDual_inj]

theorem Advice.le_iff (a b : Advice) : a.le b = true ↔ rankKey a ≤ rankKey b := by
  simp only [Advice.le, rankKey, Prod.Lex.le_iff, ofLex_toLex, OrderDual.toDual_lt_toDual,
    OrderDual.toDual_inj, Bool.or_eq_true, Bool.and_eq_true, Bool.not_eq_true',
    decide_eq_true_eq, decide_eq_false_iff_not, beq_iff_eq, not_lt]

/-- **There is one ranking** of the advice on some findings. -/
theorem Ranks.unique (h : Ranks findings ranked) (h' : Ranks findings ranked') :
    ranked = ranked' := by
  have hstrict : ∀ {as : List Advice}, as.Pairwise Above → as.Nodup := fun horder =>
    horder.imp fun hab heq => by
      rw [above_iff, heq] at hab
      exact lt_irrefl _ hab
  have hperm := (List.perm_ext_iff_of_nodup (hstrict h.order) (hstrict h'.order)).mpr fun a =>
    (h.mem a).trans (h'.mem a).symm
  refine hperm.eq_of_pairwise (fun a b _ _ hab hba => ?_) h.order h'.order
  rw [above_iff] at hab hba
  exact absurd hba (lt_asymm hab)

/-- It does not depend on the order of the findings either. -/
theorem Ranks.perm (h : Ranks findings ranked) (hperm : findings'.Perm findings) :
    Ranks findings' ranked where
  mem a := by simp only [h.mem a, adviceOf_perm hperm, hperm.mem_iff]
  order := h.order

theorem DecidedByRule.perm (hrules : DecidedByRule findings) (hperm : findings'.Perm findings) :
    DecidedByRule findings' := fun f hf g hg =>
  hrules f (hperm.mem_iff.mp hf) g (hperm.mem_iff.mp hg)

/-- **The advice of a report is a ranking.** -/
theorem ranks_advice (hrules : DecidedByRule findings) : Ranks findings (advice findings) := by
  have hmem : ∀ a, a ∈ (ruleIds findings).filterMap (adviceFor? findings) ↔
      ∃ f ∈ findings, a = adviceOf findings f := by
    intro a
    simp only [List.mem_filterMap, ruleIds, List.mem_eraseDups, List.mem_map]
    constructor
    · rintro ⟨-, ⟨f, hf, rfl⟩, ha⟩
      rw [adviceFor?_of_mem hrules hf] at ha
      exact ⟨f, hf, (Option.some.inj ha).symm⟩
    · rintro ⟨f, hf, rfl⟩
      exact ⟨f.ruleId, ⟨f, hf, rfl⟩, adviceFor?_of_mem hrules hf⟩
  have hids : ((ruleIds findings).filterMap (adviceFor? findings)).Pairwise
      fun a b => a.ruleId ≠ b.ruleId := by
    refine List.pairwise_filterMap.mpr ((nodup_eraseDups _).imp fun hne a ha b hb heq => ?_)
    exact hne ((ruleId_of_adviceFor? ha).symm.trans (heq.trans (ruleId_of_adviceFor? hb)))
  have hperm := List.mergeSort_perm ((ruleIds findings).filterMap (adviceFor? findings)) Advice.le
  refine ⟨fun a => hperm.mem_iff.trans (hmem a), ?_⟩
  have hsorted : (advice findings).Pairwise fun a b => rankKey a ≤ rankKey b := by
    refine (List.pairwise_mergeSort ?_ ?_ _).imp fun hab => (Advice.le_iff _ _).mp hab
    · intro a b c hab hbc
      rw [Advice.le_iff] at *
      exact le_trans hab hbc
    · intro a b
      rw [Bool.or_eq_true, Advice.le_iff, Advice.le_iff]
      exact le_total (rankKey a) (rankKey b)
  have hids : (advice findings).Pairwise fun a b => a.ruleId ≠ b.ruleId :=
    (hperm.pairwise_iff Ne.symm).mpr hids
  refine (hsorted.and hids).imp ?_
  rintro a b ⟨hle, hne⟩
  refine above_iff.mpr (lt_of_le_of_ne hle fun heq => hne ?_)
  simp only [rankKey, EmbeddingLike.apply_eq_iff_eq, Prod.mk.injEq] at heq
  exact heq.2

/-! ## Secrets -/

/-- No severity weighs as much as a secret. -/
theorem severityWeight_le (s : Severity) : severityWeight s ≤ 900 := by cases s <;> decide

/-- **The priority of a rule tells whether it is one for secrets**, whatever the number of its
findings. -/
theorem secret_iff (s : Severity) (c : Category) (count : Nat) :
    secretWeight ≤ priority s c count ↔ c = .secret := by
  unfold priority
  split
  · next hc => exact ⟨fun _ => hc, fun _ => Nat.le_add_right _ _⟩
  · next hc =>
    have hproduct : severityWeight s * min count countedFindings ≤ 900 * countedFindings :=
      Nat.mul_le_mul (severityWeight_le s) (Nat.min_le_right _ _)
    refine ⟨fun hle => ?_, fun h => absurd h hc⟩
    unfold secretWeight at hle
    unfold countedFindings at hle hproduct
    omega

/-- A rule for secrets calls for the text. -/
def OfSecret (findings : List Finding) (text : String) : Prop :=
  ∃ f ∈ findings, f.category = .secret ∧ (adviceOf findings f).text = text

/-- Advice on a secret is told by its priority. -/
theorem Ranks.secret_iff (h : Ranks findings ranked) (ha : a ∈ ranked) :
    secretWeight ≤ a.priority ↔ ∃ f ∈ findings, f.category = .secret ∧ adviceOf findings f = a := by
  obtain ⟨f, hf, rfl⟩ := (h.mem a).mp ha
  constructor
  · exact fun hle => ⟨f, hf, (Report.secret_iff ..).mp hle, rfl⟩
  · rintro ⟨g, -, hg, heq⟩
    rw [← heq]
    exact (Report.secret_iff ..).mpr hg

/-- If what satisfies `p` comes first in a list, then so do the values that it has. -/
theorem pairwise_eraseDups_map {α β : Type} [BEq β] [LawfulBEq β] {p : α → Prop} (value : α → β)
    {as : List α} (h : as.Pairwise fun a b => p b → p a) :
    ((as.map value).eraseDups).Pairwise fun s t =>
      (∃ a ∈ as, p a ∧ value a = t) → ∃ a ∈ as, p a ∧ value a = s := by
  induction as using List.reverseRecOn with
  | nil => exact .nil
  | append_singleton as a ih =>
      obtain ⟨has, -, hlast⟩ := List.pairwise_append.mp h
      -- If the last one satisfies `p`, then all of them do.
      have hall : p a → ∀ s ∈ (as.map value).eraseDups, ∃ b ∈ as ++ [a], p b ∧ value b = s := by
        intro ha s hs
        obtain ⟨b, hb, rfl⟩ := List.mem_map.mp (List.mem_eraseDups.mp hs)
        exact ⟨b, List.mem_append_left _ hb, hlast b hb a (List.mem_singleton_self a) ha, rfl⟩
      have hold : ((as.map value).eraseDups).Pairwise fun s t =>
          (∃ b ∈ as ++ [a], p b ∧ value b = t) → ∃ b ∈ as ++ [a], p b ∧ value b = s := by
        refine (ih has).imp_of_mem fun {s t} hs ht hst => ?_
        rintro ⟨b, hb, hpb, hbt⟩
        rcases List.mem_append.mp hb with hb | hb
        · obtain ⟨c, hc, hcs⟩ := hst ⟨b, hb, hpb, hbt⟩
          exact ⟨c, List.mem_append_left _ hc, hcs⟩
        · exact hall (List.mem_singleton.mp hb ▸ hpb) s hs
      rw [List.map_append, List.map_singleton, eraseDups_concat]
      split
      · exact hold
      · next hnew =>
        refine List.pairwise_append.mpr ⟨hold, List.pairwise_singleton _ _, fun s hs t ht => ?_⟩
        obtain rfl := List.mem_singleton.mp ht
        rintro ⟨b, hb, hpb, hbt⟩
        rcases List.mem_append.mp hb with hb | hb
        · exact absurd (hbt ▸ List.mem_map_of_mem hb) hnew
        · exact hall (List.mem_singleton.mp hb ▸ hpb) s hs

/-- Advice on secrets comes first. -/
theorem Ranks.secrets_first (h : Ranks findings ranked) :
    ((ranked.map Advice.text).eraseDups).Pairwise fun s t =>
      OfSecret findings t → OfSecret findings s := by
  have hfirst : ranked.Pairwise fun a b => secretWeight ≤ b.priority → secretWeight ≤ a.priority :=
    h.order.imp fun hab hb => by
      rcases hab with hab | ⟨hab, -⟩ <;> omega
  have hof : ∀ s, (∃ a ∈ ranked, secretWeight ≤ a.priority ∧ a.text = s) ↔ OfSecret findings s := by
    intro s
    constructor
    · rintro ⟨a, ha, hsecret, rfl⟩
      obtain ⟨f, hf, hcategory, rfl⟩ := (h.secret_iff ha).mp hsecret
      exact ⟨f, hf, hcategory, rfl⟩
    · rintro ⟨f, hf, hcategory, rfl⟩
      have ha := (h.mem _).mpr ⟨f, hf, rfl⟩
      exact ⟨_, ha, (h.secret_iff ha).mpr ⟨f, hf, hcategory, rfl⟩, rfl⟩
  simpa only [hof] using pairwise_eraseDups_map Advice.text hfirst

/-! ## Recommendations -/

/-- The texts of the ranking are those that the rules call for. -/
theorem Ranks.length_texts (h : Ranks findings ranked) :
    (ranked.map Advice.text).eraseDups.length =
      (findings.map fun f => (adviceOf findings f).text).toFinset.card := by
  rw [← List.toFinset_card_of_nodup (nodup_eraseDups _)]
  congr 1
  ext t
  simp only [List.mem_toFinset, List.mem_eraseDups, List.mem_map]
  constructor
  · rintro ⟨a, ha, rfl⟩
    obtain ⟨f, hf, rfl⟩ := (h.mem a).mp ha
    exact ⟨f, hf, rfl⟩
  · rintro ⟨f, hf, rfl⟩
    exact ⟨_, (h.mem _).mpr ⟨f, hf, rfl⟩, rfl⟩

/-- **Recommendations are the first distinct texts of a ranking.** Let what the report says of a
finding go with its rule, and let there be room for one text. There is one ranking of what the rules
call for, and the recommendations are the first of its distinct texts, as many as there is room for
or all of them. They are the same for the same findings in another order. A text that a rule for
secrets calls for has only such texts before it. -/
theorem recommend_ranked (hrules : DecidedByRule findings) {limit : Int} (hlimit : 1 ≤ limit) :
    ∃ ranked, (∀ as, Ranks findings as ↔ as = ranked) ∧
      recommend findings limit = ((ranked.map Advice.text).eraseDups).take limit.toNat ∧
      (recommend findings limit).Nodup ∧
      ((recommend findings limit).length : Int) =
        min limit (findings.map fun f => (adviceOf findings f).text).toFinset.card ∧
      (∀ findings', findings'.Perm findings →
        recommend findings' limit = recommend findings limit) ∧
      ((ranked.map Advice.text).eraseDups).Pairwise fun s t =>
        OfSecret findings t → OfSecret findings s := by
  have hranks := ranks_advice hrules
  have htake : ∀ fs, recommend fs limit =
      (((advice fs).map Advice.text).eraseDups).take limit.toNat := fun fs =>
    addDistinct_eq_take List.nodup_nil (Int.lt_of_lt_of_le Int.zero_lt_one hlimit) _
  refine ⟨advice findings, fun as => ⟨fun has => has.unique hranks, ?_⟩, htake findings, ?_, ?_, ?_,
    hranks.secrets_first⟩
  · rintro rfl
    exact hranks
  · rw [htake]
    exact (nodup_eraseDups _).sublist (List.take_sublist _ _)
  · rw [htake, List.length_take, hranks.length_texts]
    omega
  · intro findings' hperm
    rw [htake, htake, (ranks_advice (hrules.perm hperm)).unique (hranks.perm hperm)]

end Report

namespace Sample

/-- There is room for one text only, and the rule for secrets has it in both orders. -/
theorem recommend_ranked_secondFirst :
    ∃ ranked, (∀ as, Report.Ranks secondFirst as ↔ as = ranked) ∧
      Report.recommend secondFirst 1 =
        ((ranked.map Report.Advice.text).eraseDups).take 1 ∧
      Report.recommend firstFirst 1 = Report.recommend secondFirst 1 ∧
      Report.OfSecret secondFirst
        "Token (4 occurrences): rotate them immediately and move them to environment variables" := by
  obtain ⟨ranked, hranked, htake, -, -, hperm, -⟩ :=
    Report.recommend_ranked (by simp [Report.DecidedByRule, secondFirst, tokenAt, evalAt] :
      Report.DecidedByRule secondFirst) (Int.le_refl 1)
  refine ⟨ranked, hranked, htake, hperm firstFirst (by decide), tokenAt "a.js" 7 1, ?_, rfl, ?_⟩
  · decide
  · decide +kernel

end Sample

end SourceAudit
