import DialogueScript.Proofs.Numerals
import DialogueScript.Proofs.TagReading
import DialogueScript.Proofs.TurnRelations
import Mathlib.Algebra.GroupWithZero.Nat
import Mathlib.Algebra.Order.BigOperators.Group.List
import Mathlib.Algebra.Order.Group.Nat
import Mathlib.Order.Interval.Finset.Nat

/-!
# Weighted choice

The weights of a trigger's redirects and replies divide the points below their total among them: the
points that select an entry begin behind the weights before it, and there are as many as it weighs.
A point is drawn by multiplying a random word, and every point is drawn by as many words.
-/

namespace DialogueScript

namespace Random

/-! ## Points and entries -/

/-- The points that select an entry. -/
theorem indexAt_eq_iff {weights : List Nat} {index : Nat} (hindex : index < weights.length)
    (point : Nat) :
    indexAt point weights = index ↔
      (weights.take index).sum ≤ point ∧ point < (weights.take (index + 1)).sum := by
  induction weights generalizing point index with
  | nil => cases hindex
  | cons weight weights ih =>
    rw [indexAt]
    cases index with
    | zero => split <;> simp <;> omega
    | succ index =>
      have hrest := ih (Nat.lt_of_succ_lt_succ hindex) (point - weight)
      rw [List.take_succ_cons, List.take_succ_cons, List.sum_cons, List.sum_cons]
      split
      · omega
      · rw [Nat.add_right_cancel_iff, hrest]
        omega

theorem indexAt_lt_length {weights : List Nat} {point : Nat} (hpoint : point < weights.sum) :
    indexAt point weights < weights.length := by
  induction weights generalizing point with
  | nil => cases hpoint
  | cons weight weights ih =>
    rw [List.sum_cons] at hpoint
    rw [indexAt]
    split
    · exact Nat.succ_pos _
    · exact Nat.succ_lt_succ (ih (by omega))

/-- The first entry whose weight, added to those before it, exceeds the point. -/
def Selects (weights : List Nat) (point index : Nat) : Prop :=
  point < (weights.take (index + 1)).sum ∧
    ∀ earlier < index, (weights.take (earlier + 1)).sum ≤ point

instance (weights : List Nat) (point index : Nat) : Decidable (Selects weights point index) :=
  inferInstanceAs (Decidable (_ ∧ _))

theorem selects_iff_indexAt_eq {weights : List Nat} {index : Nat} (hindex : index < weights.length)
    (point : Nat) :
    Selects weights point index ↔ indexAt point weights = index := by
  rw [indexAt_eq_iff hindex, Selects, and_comm, and_congr_left_iff]
  intro _
  constructor
  · intro hearlier
    cases index with
    | zero => exact Nat.zero_le point
    | succ index => exact hearlier index (Nat.lt_succ_self index)
  · intro hbefore earlier hlt
    exact Nat.le_trans (List.monotone_sum_take weights hlt) hbefore

/-- An entry is selected by as many points as it weighs. -/
theorem card_selects {weights : List Nat} {index : Nat} (hindex : index < weights.length) :
    ((Finset.range weights.sum).filter fun point => Selects weights point index).card =
      weights[index] := by
  have hend : (weights.take (index + 1)).sum = (weights.take index).sum + weights[index] :=
    List.sum_take_succ weights index hindex
  have hle : (weights.take (index + 1)).sum ≤ weights.sum := by
    rw [← List.sum_take_add_sum_drop weights (index + 1)]
    exact Nat.le_add_right _ _
  have hpoints : (Finset.range weights.sum).filter (fun point => Selects weights point index) =
      Finset.Ico (weights.take index).sum (weights.take (index + 1)).sum := by
    ext point
    rw [Finset.mem_filter, Finset.mem_range, selects_iff_indexAt_eq hindex, indexAt_eq_iff hindex,
      Finset.mem_Ico]
    omega
  rw [hpoints, Nat.card_Ico, hend, Nat.add_sub_cancel_left]

namespace Stream

/-! ## Words and points -/

theorem next_lt (stream : Stream) : stream.next.1 < UInt64.size := by
  have hword : ∀ low high : UInt32, low.toNat + UInt32.size * high.toNat < UInt64.size := by
    intro low high
    have hlow := low.toNat_lt
    have hhigh := high.toNat_lt
    simp only [UInt32.size, UInt64.size]
    omega
  exact hword _ _

theorem below_lt {n : Nat} (hn : 0 < n) (zone tries : Nat) (stream : Stream) :
    (below n zone tries stream).1 < n := by
  induction tries generalizing stream with
  | zero => exact hn
  | succ tries ih =>
    unfold below
    dsimp only
    split
    · apply Nat.div_lt_of_lt_mul
      exact Nat.mul_lt_mul_of_pos_right stream.next_lt hn
    · exact ih _

/-- The words that draw a point below `n`. -/
def wordsFor (n point : Nat) : Finset Nat :=
  (Finset.range UInt64.size).filter fun word =>
    word * n % UInt64.size ≤ weightedZone n ∧ word * n / UInt64.size = point

/-- The zone holds as many rounds of `n` as fit. -/
theorem weightedZone_add_one {n : Nat} (hn : 0 < n) (hsize : n ≤ UInt64.size) :
    weightedZone n + 1 = n * (UInt64.size / n) := by
  have hround : (UInt64.size - n) % n = UInt64.size % n := (Nat.mod_eq_sub_mod hsize).symm
  have hrest : UInt64.size % n < n := Nat.mod_lt _ hn
  have hdivide := Nat.div_add_mod UInt64.size n
  unfold weightedZone
  rw [hround]
  omega

/-- In a range of `rounds` times `n` stand as many products of `n`. -/
theorem card_products
    {size n rounds start : Nat} (hn : 0 < n) (hend : start + n * rounds ≤ size * n) :
    ((Finset.range size).filter fun word =>
      start ≤ word * n ∧ word * n < start + n * rounds).card = rounds := by
  -- the first word whose product reaches the range
  obtain ⟨first, hfirst⟩ : ∃ first, ∀ word, start ≤ word * n ↔ first ≤ word :=
    ⟨(start + n - 1) / n, fun word => by
      rw [Nat.div_le_iff_le_mul_add_pred hn]
      have hcomm := Nat.mul_comm n word
      omega⟩
  have hpast : ∀ word, word * n < start + n * rounds ↔ word < first + rounds := by
    intro word
    by_cases hword : word < rounds
    · have hproduct : word * n < n * rounds := by
        rw [Nat.mul_comm]
        exact Nat.mul_lt_mul_of_pos_left hword hn
      omega
    · obtain ⟨more, rfl⟩ := Nat.exists_eq_add_of_le (Nat.le_of_not_lt hword)
      have hmore := hfirst more
      have hproduct : (rounds + more) * n = n * rounds + more * n := by
        rw [Nat.add_mul, Nat.mul_comm rounds]
      omega
  have hwords : (Finset.range size).filter (fun word =>
      start ≤ word * n ∧ word * n < start + n * rounds) = Finset.Ico first (first + rounds) := by
    ext word
    rw [Finset.mem_filter, Finset.mem_range, hfirst, hpast, Finset.mem_Ico, and_iff_right_iff_imp]
    rintro ⟨-, hword⟩
    exact Nat.lt_of_mul_lt_mul_right (Nat.lt_of_lt_of_le ((hpast word).mpr hword) hend)
  rw [hwords, Nat.card_Ico, Nat.add_sub_cancel_left]

/-- Every point is drawn by as many words. -/
theorem card_wordsFor {n point : Nat} (hsize : n ≤ UInt64.size) (hpoint : point < n) :
    (wordsFor n point).card = UInt64.size / n := by
  have hn : 0 < n := Nat.zero_lt_of_lt hpoint
  have hzone := weightedZone_add_one hn hsize
  have hrounds : n * (UInt64.size / n) ≤ UInt64.size := Nat.mul_div_le _ _
  have hend : point * UInt64.size + n * (UInt64.size / n) ≤ UInt64.size * n := by
    have hlast := Nat.mul_le_mul_left UInt64.size hpoint
    rw [Nat.mul_succ, Nat.mul_comm UInt64.size point] at hlast
    exact Nat.le_trans (Nat.add_le_add_left hrounds _) hlast
  have hpositive : 0 < UInt64.size := by decide
  rw [wordsFor]
  generalize weightedZone n = zone at hzone ⊢
  generalize UInt64.size = size at hsize hrounds hend hzone hpositive ⊢
  rw [← card_products hn hend]
  congr 1
  ext word
  rw [Finset.mem_filter, Finset.mem_filter, and_congr_right_iff]
  intro _
  have hdivide := Nat.div_add_mod' (word * n) size
  have hrest : word * n % size < size := Nat.mod_lt _ hpositive
  generalize word * n = product at hdivide hrest ⊢
  rw [← hzone]
  constructor
  · rintro ⟨hlow, rfl⟩
    omega
  · rintro ⟨hlow, hhigh⟩
    have hpoint : product / size = point := by
      rw [Nat.div_eq_iff hpositive]
      omega
    rw [hpoint] at hdivide
    exact ⟨by omega, hpoint⟩

theorem chooseWeighted_eq {weights : List Nat} (hsome : weights ≠ []) (stream : Stream) :
    (stream.chooseWeighted weights).1 =
      some (indexAt (below (total weights) (weightedZone (total weights)) period stream).1
        weights) := by
  rw [chooseWeighted, if_neg (by simpa using hsome)]

theorem chooseWeighted_single {weight : Nat} (hweight : 0 < weight) (stream : Stream) :
    (stream.chooseWeighted [weight]).1 = some 0 := by
  have hpoint := below_lt hweight (weightedZone weight) period stream
  simp [chooseWeighted_eq, total, indexAt, hpoint]

end Stream

end Random

/-! ## Redirects and replies -/

namespace Turn

theorem choiceWeight_pos (text : Text) : 0 < choiceWeight text := by
  unfold choiceWeight
  split
  · exact Nat.one_pos
  · exact Nat.lt_of_lt_of_le Nat.one_pos (Nat.le_max_left _ _)

/-- The weight that a redirect or reply states in its first weight tag, from 1 to `2 ^ 32 - 1`; it
is 1 without a tag. -/
def statedWeight (text : Text) : Nat :=
  ((Text.tags Tag.weight? text).head?.map fun digits =>
    max 1 (min (Number.ofDigits digits) (2 ^ 32 - 1))).getD 1

theorem choiceWeight_eq_stated
    {text : Text} (hdigits : ∀ digits ∈ Text.tags Tag.weight? text, ∀ c ∈ digits, c.isDigit) :
    choiceWeight text = statedWeight text := by
  unfold choiceWeight statedWeight
  cases hhead : (Text.tags Tag.weight? text).head? with
  | none => rfl
  | some digits =>
    have hmem := List.mem_of_mem_head? hhead
    have hsome : digits ≠ [] := Tag.ne_nil_of_mem_tags hmem
    have hheaviest : heaviest = 2 ^ 32 - 1 := rfl
    have hlimit : 2 ^ 32 - 1 < Number.wordLimit := by decide
    simp only [Number.word?_of_isDigit hsome (hdigits digits hmem), hheaviest, Option.map_some,
      Option.getD_some]
    -- what does not fit a word is more than the heaviest weight
    split
    · rfl
    · rw [Option.getD_none, min_self, min_eq_right (by omega)]

theorem one_le_statedWeight (text : Text) : 1 ≤ statedWeight text := by
  unfold statedWeight
  cases (Text.tags Tag.weight? text).head? with
  | none => exact Nat.le_refl 1
  | some digits => exact le_max_left _ _

theorem statedWeight_le (text : Text) : statedWeight text ≤ 2 ^ 32 - 1 := by
  unfold statedWeight
  cases (Text.tags Tag.weight? text).head? with
  | none => decide
  | some digits => exact max_le (by decide) (min_le_right _ _)

theorem run_choose
    {α : Type} (options : Nat) (f : Random.Stream → α × Random.Stream) (turn : Turn) :
    (choose options f).run turn = ((f turn.mind.random).1,
      { turn with
        mind := { turn.mind with random := (f turn.mind.random).2 }
        trace := turn.trace.noteChoice options }) :=
  rfl

theorem run_chooseAnswer_of_single
    {trigger : Trigger} {choice : Choice} (hchoices : choices trigger = [choice]) (turn : Turn) :
    ∃ random, (chooseAnswer trigger).run turn =
      (some choice, { turn with
        mind := { turn.mind with random }
        trace := { turn.trace with choices := turn.trace.choices ++ [1] } }) := by
  have hindex := Random.Stream.chooseWeighted_single (choiceWeight_pos choice.text) turn.mind.random
  refine ⟨(turn.mind.random.chooseWeighted [choiceWeight choice.text]).2, ?_⟩
  unfold chooseAnswer
  dsimp only
  rw [hchoices, List.map_singleton, run_bind, run_choose, hindex]
  rfl

/-- Fewer than `2 ^ 32` weights have a total that fits a word. -/
theorem sum_statedWeight_lt {entries : List Choice} (hcount : entries.length < 2 ^ 32) :
    (entries.map fun entry => statedWeight entry.text).sum < 2 ^ 64 := by
  have hle := List.sum_le_card_nsmul (entries.map fun entry => statedWeight entry.text) (2 ^ 32 - 1)
    (by
      rw [List.forall_mem_map]
      exact fun entry _ => statedWeight_le entry.text)
  rw [List.length_map, Nat.nsmul_eq_mul] at hle
  omega

/-- The answer is the entry that the drawn point selects. -/
theorem run_chooseAnswer
    {trigger : Trigger} (hsome : choices trigger ≠ [])
    (hdigits : ∀ choice ∈ choices trigger, ∀ digits ∈ Text.tags Tag.weight? choice.text,
      ∀ c ∈ digits, c.isDigit) (turn : Turn) :
    let weights := (choices trigger).map fun entry => statedWeight entry.text
    ((chooseAnswer trigger).run turn).1 = (choices trigger)[Random.indexAt
      (Random.Stream.below weights.sum (Random.Stream.weightedZone weights.sum)
        Random.Stream.period turn.mind.random).1 weights]? := by
  have hweights : (choices trigger).map (fun choice => choiceWeight choice.text) =
      (choices trigger).map fun entry => statedWeight entry.text :=
    List.map_congr_left fun choice hmem => choiceWeight_eq_stated (hdigits choice hmem)
  unfold chooseAnswer
  dsimp only
  rw [hweights, run_bind, run_choose, Random.Stream.chooseWeighted_eq (by simpa using hsome)]
  rfl

/-- A trigger with fewer than `2 ^ 32` redirects and replies divides the points below the total of
their weights, which fits a word, among them: an entry is selected by as many points as it weighs,
at least one, and every point selects an entry.  The entry that is chosen is the one that the drawn
point selects, and every point is drawn by as many words.  Nothing is chosen only where there is no
entry. -/
theorem chooseAnswer_goes_by_weight
    {trigger : Trigger} (hcount : (choices trigger).length < 2 ^ 32)
    (hdigits : ∀ choice ∈ choices trigger, ∀ digits ∈ Text.tags Tag.weight? choice.text,
      ∀ c ∈ digits, c.isDigit) :
    let entries := trigger.redirects.map Choice.redirect ++ trigger.replies.map Choice.reply
    let weights := entries.map fun entry => statedWeight entry.text
    weights.sum < 2 ^ 64 ∧
    (∀ index (hindex : index < weights.length), 1 ≤ weights[index] ∧
      ((Finset.range weights.sum).filter fun point => Random.Selects weights point index).card =
        weights[index]) ∧
    (∀ point < weights.sum, ∃ index < weights.length, Random.Selects weights point index ∧
      (Random.Stream.wordsFor weights.sum point).card = 2 ^ 64 / weights.sum) ∧
    ∀ turn : Turn, (((chooseAnswer trigger).run turn).1 = none ↔ entries = []) ∧
      (entries ≠ [] → ∃ point < weights.sum, ∃ index, Random.Selects weights point index ∧
        (∃ entry, entries[index]? = some entry ∧
          ((chooseAnswer trigger).run turn).1 = some entry) ∧
        point = (Random.Stream.below weights.sum (Random.Stream.weightedZone weights.sum)
          Random.Stream.period turn.mind.random).1) := by
  intro entries weights
  have hentries : choices trigger = entries := rfl
  have htotal : weights.sum < 2 ^ 64 := sum_statedWeight_lt hcount
  have hpositive : ∀ index (hindex : index < weights.length), 1 ≤ weights[index] := by
    intro index hindex
    rw [List.getElem_map]
    exact one_le_statedWeight _
  have hselected : ∀ point < weights.sum,
      ∃ index < weights.length, Random.indexAt point weights = index ∧
        Random.Selects weights point index := by
    intro point hpoint
    have hlt := Random.indexAt_lt_length hpoint
    exact ⟨_, hlt, rfl, (Random.selects_iff_indexAt_eq hlt point).mpr rfl⟩
  refine ⟨htotal, ?_, ?_, ?_⟩
  · exact fun index hindex => ⟨hpositive index hindex, Random.card_selects hindex⟩
  · intro point hpoint
    obtain ⟨index, hindex, -, hselects⟩ := hselected point hpoint
    exact ⟨index, hindex, hselects, Random.Stream.card_wordsFor (Nat.le_of_lt htotal) hpoint⟩
  · intro turn
    by_cases hsome : entries = []
    · refine ⟨iff_of_true ?_ hsome, fun hne => absurd hsome hne⟩
      unfold chooseAnswer
      dsimp only
      rw [hentries, hsome, run_bind, run_choose]
      rfl
    · have hrun := run_chooseAnswer hsome hdigits turn
      have hsum : 0 < weights.sum := by
        have hlength : 0 < weights.length := by
          rw [List.length_map]
          exact List.length_pos_of_ne_nil hsome
        exact Nat.lt_of_lt_of_le (hpositive 0 hlength) (List.le_sum_of_mem (List.getElem_mem _))
      have hpoint := Random.Stream.below_lt hsum (Random.Stream.weightedZone weights.sum)
        Random.Stream.period turn.mind.random
      obtain ⟨index, hindex, hat, hselects⟩ := hselected _ hpoint
      have hlt : index < entries.length := by rwa [List.length_map] at hindex
      have hchosen : ((chooseAnswer trigger).run turn).1 = some entries[index] := by
        refine hrun.trans ?_
        rw [← List.getElem?_eq_getElem hlt, ← hat]
        rfl
      refine ⟨iff_of_false (by simp [hchosen]) hsome, fun _ => ?_⟩
      exact ⟨_, hpoint, index, hselects, ⟨_, List.getElem?_eq_getElem hlt, hchosen⟩, rfl⟩

/-- A redirect with a weight beyond every word, a reply that weighs nothing, and one without a
weight. -/
def weightsTrigger : Trigger where
  topic := "random".toList
  key := ⟨"hi".toList, none⟩
  redirects := ["\x7bweight=99999999999999999999999\x7dhello".toList]
  replies := ["\x7bweight=0\x7dhey".toList, "hello".toList]

/-- The redirect is selected by all points but two, and every turn answers. -/
theorem chooseAnswer_weightsTrigger :
    (choices weightsTrigger).length < 2 ^ 32 ∧
    (∀ choice ∈ choices weightsTrigger, ∀ digits ∈ Text.tags Tag.weight? choice.text,
      ∀ c ∈ digits, c.isDigit) ∧
    (choices weightsTrigger).map (fun entry => statedWeight entry.text) = [2 ^ 32 - 1, 1, 1] ∧
    ((Finset.range (2 ^ 32 + 1)).filter fun point =>
      Random.Selects [2 ^ 32 - 1, 1, 1] point 0).card = 2 ^ 32 - 1 ∧
    ∀ turn : Turn, ((chooseAnswer weightsTrigger).run turn).1 ≠ none := by
  have hcount : (choices weightsTrigger).length < 2 ^ 32 := by decide
  have hread : ∀ choice ∈ choices weightsTrigger, ∀ digits ∈ Text.tags Tag.weight? choice.text,
      digits.all Char.isDigit := by decide +kernel
  have hdigits : ∀ choice ∈ choices weightsTrigger, ∀ digits ∈ Text.tags Tag.weight? choice.text,
      ∀ c ∈ digits, c.isDigit :=
    fun choice hchoice digits hmem => List.all_eq_true.mp (hread choice hchoice digits hmem)
  have hweights : (weightsTrigger.redirects.map Choice.redirect ++
      weightsTrigger.replies.map Choice.reply).map (fun entry => statedWeight entry.text) =
        [2 ^ 32 - 1, 1, 1] := by decide +kernel
  obtain ⟨-, hcard, -, hrun⟩ := chooseAnswer_goes_by_weight hcount hdigits
  rw [hweights] at hcard
  exact ⟨hcount, hdigits, hweights, (hcard 0 (by decide)).2,
    fun turn hnone => absurd ((hrun turn).1.mp hnone) (by decide)⟩

end Turn

end DialogueScript
