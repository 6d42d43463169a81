import DialogueScript.Session

/-!
# What is read back

A table gives back what was written last under a key, and so do the variables of a session.
-/

namespace DialogueScript

namespace Table

variable {α : Type}

@[simp] theorem get?_insert_self (table : Table α) (key : Text) (value : α) :
    (table.insert key value).get? key = some value := by
  unfold insert get?
  dsimp only
  induction table.entries with
  | nil => simp [put]
  | cons entry entries ih =>
    unfold put
    split
    · simp
    · rename_i hkey
      have hkey : (key == entry.1) = false := by
        simpa using Ne.symm hkey
      rw [List.lookup_cons, hkey]
      exact ih

theorem get?_insert_of_ne
    (table : Table α) {key other : Text} (value : α) (hne : other ≠ key) :
    (table.insert key value).get? other = table.get? other := by
  unfold insert get?
  dsimp only
  have hkey : (other == key) = false := by
    simpa using hne
  induction table.entries with
  | nil => simp [put, List.lookup_cons, hkey]
  | cons entry entries ih =>
    unfold put
    split
    · rename_i hentry
      subst hentry
      rw [List.lookup_cons, List.lookup_cons, hkey]
    · rw [List.lookup_cons, List.lookup_cons, ih]

theorem get?_erase_self (table : Table α) (key : Text) : (table.erase key).get? key = none := by
  unfold erase get?
  dsimp only
  rw [List.lookup_eq_none_iff]
  intro entry hentry
  have hne : entry.1 ≠ key := by
    simpa using (List.mem_filter.mp hentry).2
  simpa using hne.symm

theorem get?_erase_of_ne (table : Table α) {key other : Text} (hne : other ≠ key) :
    (table.erase key).get? other = table.get? other := by
  unfold erase get?
  dsimp only
  induction table.entries with
  | nil => rfl
  | cons entry entries ih =>
    rw [List.lookup_cons]
    by_cases hentry : entry.1 = key
    · have hkey : (other == entry.1) = false := by
        simpa [hentry] using hne
      rw [List.filter_cons_of_neg (by simpa using hentry), ih, hkey]
    · rw [List.filter_cons_of_pos (by simpa using hentry), List.lookup_cons, ih]

/-- Writing a key again replaces what was written, in its place. -/
@[simp] theorem insert_insert (table : Table α) (key : Text) (value later : α) :
    (table.insert key value).insert key later = table.insert key later := by
  unfold insert
  dsimp only
  congr 1
  induction table.entries with
  | nil => simp [put]
  | cons entry entries ih =>
    by_cases hentry : entry.1 = key
    · simp [put, hentry]
    · simp [put, hentry, ih]

end Table

/-- Of what is written one after the other, the last under a name is read. -/
theorem get?_foldl
    {σ : Type} {write : σ → Text × Text → σ} {get? : σ → Text → Option Text}
    {written : List (Text × Text)}
    (hwrite : ∀ entry ∈ written, ∀ state name,
      get? (write state entry) name = if name = entry.1 then some entry.2 else get? state name)
    (state : σ) (name : Text) :
    get? (written.foldl write state) name = (written.reverse.lookup name).or (get? state name) := by
  induction written generalizing state with
  | nil => rfl
  | cons entry written ih =>
    obtain ⟨key, value⟩ := entry
    obtain ⟨hentry, hrest⟩ := List.forall_mem_cons.mp hwrite
    rw [List.foldl_cons, ih hrest, hentry, List.reverse_cons, List.lookup_append, Option.or_assoc]
    congr 1
    by_cases hname : name = key
    · simp [hname]
    · have hkey : (name == key) = false := by
        simpa using hname
      simp [hname, List.lookup_cons, hkey]

namespace Session

theorem get_set_of_ne
    (session : Session) {name other : Text} (value : Text) (hne : other ≠ name) :
    (session.set name value).get other = session.get other := by
  rw [get, get, set, Table.get?_insert_of_ne _ _ hne]

@[simp] theorem topic_setTopic (session : Session) (topic : Text) :
    (session.setTopic topic).topic = topic := by
  simp [Session.topic, get, setTopic, set]

theorem topic_set_of_ne
    (session : Session) {name : Text} (value : Text) (hne : topicName ≠ name) :
    (session.set name value).topic = session.topic :=
  session.get_set_of_ne value hne

@[simp] theorem set_set (session : Session) (name value later : Text) :
    (session.set name value).set name later = session.set name later := by
  simp [set]

end Session

end DialogueScript
