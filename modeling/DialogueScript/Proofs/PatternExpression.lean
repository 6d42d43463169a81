import DialogueScript.Pattern.Expression

/-!
# Rendering keeps what a pattern accepts

A rendered pattern accepts the same texts with the same stars as the pattern does where it was
rendered.  A pattern that reads nothing of the session is rendered to the same expression for all
sessions.
-/

namespace DialogueScript

namespace Pattern

/-! ## Matching a rendered pattern -/

section Fill

variable (scope : Scope)

mutual

theorem before_fill (segment : Segment) (text : Text) (marks : Marks) :
    before (.ofArrays scope.definitions.arrays)
        (fill scope.definitions (some scope.session) segment) text marks =
      before scope segment text marks := by
  cases segment with
  | optional alternatives =>
    simp only [fill, before, beforeAlternatives_fill]
  | group alternatives =>
    simp only [fill, before, beforeAlternatives_fill]
  | _ => rfl

theorem beforeSequence_fill (segments : List Segment) (text : Text) (marks : Marks) :
    beforeSequence (.ofArrays scope.definitions.arrays)
        (fillSequence scope.definitions (some scope.session) segments) text marks =
      beforeSequence scope segments text marks := by
  cases segments with
  | nil => rfl
  | cons segment segments =>
    simp only [fillSequence, beforeSequence, before_fill, beforeSequence_fill]

theorem beforeAlternatives_fill (alternatives : List (List Segment)) (text : Text) (marks : Marks) :
    beforeAlternatives (.ofArrays scope.definitions.arrays)
        (fillAlternatives scope.definitions (some scope.session) alternatives) text marks =
      beforeAlternatives scope alternatives text marks := by
  cases alternatives with
  | nil => rfl
  | cons alternative alternatives =>
    simp only [fillAlternatives, beforeAlternatives, beforeSequence_fill, beforeAlternatives_fill]

end

mutual

theorem starCount_fill (segment : Segment) :
    starCount (fill scope.definitions (some scope.session) segment) = starCount segment := by
  cases segment with
  | group alternatives =>
    simp only [fill, starCount, starCountAlternatives_fill]
  | _ => rfl

theorem starCountSequence_fill (segments : List Segment) :
    starCountSequence (fillSequence scope.definitions (some scope.session) segments) =
      starCountSequence segments := by
  cases segments with
  | nil => rfl
  | cons segment segments =>
    simp only [fillSequence, starCountSequence, starCount_fill, starCountSequence_fill]

theorem starCountAlternatives_fill (alternatives : List (List Segment)) :
    starCountAlternatives (fillAlternatives scope.definitions (some scope.session) alternatives) =
      starCountAlternatives alternatives := by
  cases alternatives with
  | nil => rfl
  | cons alternative alternatives =>
    simp only [fillAlternatives, starCountAlternatives, starCountSequence_fill,
      starCountAlternatives_fill]

end

mutual

theorem way?_fill (segment : Segment) (text : Text) (marks : Marks) :
    way? (.ofArrays scope.definitions.arrays)
        (fill scope.definitions (some scope.session) segment) text marks =
      way? scope segment text marks := by
  cases segment with
  | optional alternatives =>
    simp only [fill, way?, optionalWay?_fill]
  | group alternatives =>
    simp only [fill, way?, groupWay?_fill]
  | _ => rfl

theorem sequenceWay?_fill (segments : List Segment) (text : Text) (marks : Marks) :
    sequenceWay? (.ofArrays scope.definitions.arrays)
        (fillSequence scope.definitions (some scope.session) segments) text marks =
      sequenceWay? scope segments text marks := by
  cases segments with
  | nil => rfl
  | cons segment segments =>
    simp only [fillSequence, sequenceWay?, way?_fill, sequenceWay?_fill, beforeSequence_fill]

theorem optionalWay?_fill (alternatives : List (List Segment)) (text : Text) (marks : Marks) :
    optionalWay? (.ofArrays scope.definitions.arrays)
        (fillAlternatives scope.definitions (some scope.session) alternatives) text marks =
      optionalWay? scope alternatives text marks := by
  cases alternatives with
  | nil => rfl
  | cons alternative alternatives =>
    simp only [fillAlternatives, optionalWay?, sequenceWay?_fill, optionalWay?_fill,
      beforeSequence_fill]

theorem groupWay?_fill
    (passed : Nat) (alternatives : List (List Segment)) (text : Text) (marks : Marks) :
    groupWay? (.ofArrays scope.definitions.arrays) passed
        (fillAlternatives scope.definitions (some scope.session) alternatives) text marks =
      groupWay? scope passed alternatives text marks := by
  cases alternatives with
  | nil => rfl
  | cons alternative alternatives =>
    simp only [fillAlternatives, groupWay?, sequenceWay?_fill, groupWay?_fill,
      starCountSequence_fill, starCountAlternatives_fill]

end

mutual

theorem extent_fill (segment : Segment) :
    extent (.ofArrays scope.definitions.arrays)
        (fill scope.definitions (some scope.session) segment) =
      extent scope segment := by
  cases segment with
  | optional alternatives =>
    simp only [fill, extent, extentAlternatives_fill]
  | group alternatives =>
    simp only [fill, extent, extentAlternatives_fill]
  | _ => rfl

theorem extentSequence_fill (segments : List Segment) :
    extentSequence (.ofArrays scope.definitions.arrays)
        (fillSequence scope.definitions (some scope.session) segments) =
      extentSequence scope segments := by
  cases segments with
  | nil => rfl
  | cons segment segments =>
    simp only [fillSequence, extentSequence, extent_fill, extentSequence_fill]

theorem extentAlternatives_fill (alternatives : List (List Segment)) :
    extentAlternatives (.ofArrays scope.definitions.arrays)
        (fillAlternatives scope.definitions (some scope.session) alternatives) =
      extentAlternatives scope alternatives := by
  cases alternatives with
  | nil => rfl
  | cons alternative alternatives =>
    simp only [fillAlternatives, extentAlternatives, extentSequence_fill, extentAlternatives_fill]

end

end Fill

/-! ## Rendering without a session -/

section Unbound

variable (definitions : Definitions) (session : Session)

mutual

theorem fill_of_not_bound {segment : Segment} (hbound : isSessionBound segment = false) :
    fill definitions none segment = fill definitions (some session) segment := by
  cases segment with
  | optional alternatives =>
    simp only [fill, fillAlternatives_of_not_bound hbound]
  | group alternatives =>
    simp only [fill, fillAlternatives_of_not_bound hbound]
  | userVariable name => cases hbound
  | input index => cases hbound
  | reply index => cases hbound
  | _ => rfl

theorem fillSequence_of_not_bound
    {segments : List Segment} (hbound : isSessionBoundSequence segments = false) :
    fillSequence definitions none segments =
      fillSequence definitions (some session) segments := by
  cases segments with
  | nil => rfl
  | cons segment segments =>
    obtain ⟨hsegment, hsegments⟩ := Bool.or_eq_false_iff.mp hbound
    simp only [fillSequence, fill_of_not_bound hsegment, fillSequence_of_not_bound hsegments]

theorem fillAlternatives_of_not_bound
    {alternatives : List (List Segment)}
    (hbound : isSessionBoundAlternatives alternatives = false) :
    fillAlternatives definitions none alternatives =
      fillAlternatives definitions (some session) alternatives := by
  cases alternatives with
  | nil => rfl
  | cons alternative alternatives =>
    obtain ⟨hfirst, hrest⟩ := Bool.or_eq_false_iff.mp hbound
    simp only [fillAlternatives, fillSequence_of_not_bound hfirst,
      fillAlternatives_of_not_bound hrest]

end

end Unbound

end Pattern

/-! ## Compiling -/

namespace Expression

/-- Rendering a pattern for a session, compiling it and matching a text is to match the pattern where
it was rendered. -/
theorem compile?_bind_stars? (scope : Scope) (segments : List Segment) (text : Text) :
    ((render scope.definitions (some scope.session) segments).compile?.bind
        fun matcher => matcher.stars? text) =
      Pattern.matchSegments? scope segments text := by
  have hdeep : (render scope.definitions (some scope.session) segments).tooDeep =
      Pattern.tooDeep scope segments := by
    simp only [tooDeep, Pattern.tooDeep, Expression.scope, render, Pattern.extentSequence_fill]
  cases htoo : Pattern.tooDeep scope segments with
  | true =>
    rw [htoo] at hdeep
    rw [compile?, dif_neg (by simp [hdeep]), Pattern.matchSegments?, if_pos htoo]
    rfl
  | false =>
    rw [htoo] at hdeep
    rw [compile?, dif_pos hdeep, Pattern.matchSegments?, if_neg (by simp [htoo])]
    exact congrArg (Option.map Way.stars)
      (Pattern.sequenceWay?_fill scope segments text (Marks.atEnd text))

theorem render_of_not_bound
    {segments : List Segment} (hbound : Pattern.isSessionBoundSequence segments = false)
    (definitions : Definitions) (session : Session) :
    render definitions none segments = render definitions (some session) segments := by
  rw [render, Pattern.fillSequence_of_not_bound definitions session hbound]
  rfl

end Expression

end DialogueScript
