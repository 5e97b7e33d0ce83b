import SkfService.Text.Chars

/-! Searching a text for a marker, and replacing it: what holds where the marker cannot begin. -/

set_option autoImplicit false

namespace Text

variable {first : Char} {marker new front back text : List Char}

theorem replace_toList (needle new s : String) :
    (replace needle new s).toList = replaceChars needle.toList new.toList 0 s.toList :=
  String.toList_ofList

theorem replaceChars_skip (marker new front back : List Char) :
    replaceChars marker new front.length (front ++ back) = replaceChars marker new 0 back := by
  induction front with
  | nil => rfl
  | cons c front ih =>
    rw [List.cons_append, List.length_cons, replaceChars, ih]

/-- A marker at the front is replaced, and the search goes on behind it. -/
theorem replaceChars_here (first : Char) (marker new back : List Char) :
    replaceChars (first :: marker) new 0 (first :: marker ++ back) =
      new ++ replaceChars (first :: marker) new 0 back := by
  have begins : (first :: marker).isPrefixOf (first :: (marker ++ back)) = true :=
    List.isPrefixOf_iff_prefix.mpr (List.prefix_append _ _)
  rw [List.cons_append, replaceChars, if_pos begins, List.length_cons, Nat.add_sub_cancel,
    replaceChars_skip]

/-- A front without the marker's first character is copied. -/
theorem replaceChars_past (plain : first ∉ front) (marker new back : List Char) :
    replaceChars (first :: marker) new 0 (front ++ back) =
      front ++ replaceChars (first :: marker) new 0 back := by
  induction front with
  | nil => rfl
  | cons c front ih =>
    rw [List.mem_cons, not_or] at plain
    have elsewhere : ¬(first :: marker).isPrefixOf (c :: (front ++ back)) = true := by
      intro begins
      exact plain.1 (List.cons_prefix_cons.mp (List.isPrefixOf_iff_prefix.mp begins)).1
    rw [List.cons_append, replaceChars, if_neg elsewhere, ih plain.2]
    rfl

theorem replaceChars_plain (plain : first ∉ text) (marker new : List Char) :
    replaceChars (first :: marker) new 0 text = text := by
  have past := replaceChars_past plain marker new []
  rwa [List.append_nil, replaceChars, List.append_nil] at past

/-- So is a front the marker does not begin in, when what follows begins with no character of the
marker. -/
theorem replaceChars_over (quiet : ∀ rest ∈ front.tails, marker.isPrefixOf rest = false)
    (apart : ∀ c ∈ back.head?, c ∉ marker) (new : List Char) :
    replaceChars marker new 0 (front ++ back) = front ++ replaceChars marker new 0 back := by
  induction front with
  | nil => rfl
  | cons c front ih =>
    have elsewhere : ¬marker.isPrefixOf (c :: (front ++ back)) = true := by
      intro begins
      have before : marker <+: (c :: front) ++ back := List.isPrefixOf_iff_prefix.mp begins
      have silent : ¬marker <+: c :: front := by
        intro inside
        have found := quiet (c :: front) ((List.mem_tails _ _).mpr (List.suffix_refl _))
        rw [List.isPrefixOf_iff_prefix.mpr inside] at found
        cases found
      -- The marker is not within the front, so that it would have to reach into what follows.
      have longer : (c :: front).length ≤ marker.length := by
        by_contra shorter
        exact silent (List.prefix_of_prefix_length_le before (List.prefix_append _ _) (by omega))
      obtain ⟨later, rfl⟩ := List.prefix_of_prefix_length_le (List.prefix_append _ _) before longer
      have next := (List.prefix_append_right_inj _).mp before
      cases later with
      | nil => exact silent (by rw [List.append_nil])
      | cons d later =>
        obtain ⟨rest, rfl⟩ := next
        exact apart d rfl (List.mem_append_right _ List.mem_cons_self)
    rw [List.cons_append, replaceChars, if_neg elsewhere, ih]
    · rfl
    · intro rest member
      apply quiet
      rw [List.tails_cons]
      exact List.mem_cons_of_mem _ member

/-- Two markers around a text are cut out one after the other, the first one not beginning in the
second. -/
theorem replaceChars_between {begins ends body tail : List Char}
    (quiet : ∀ rest ∈ (first :: ends).tails, (first :: begins).isPrefixOf rest = false)
    (apart : ∀ c ∈ tail.head?, c ∉ first :: begins) (plain : first ∉ body) (last : first ∉ tail) :
    replaceChars (first :: ends) [] 0 (replaceChars (first :: begins) [] 0
      (first :: begins ++ (body ++ (first :: ends ++ tail)))) = body ++ tail := by
  rw [replaceChars_here, replaceChars_past plain, replaceChars_over quiet apart,
    replaceChars_plain last, List.nil_append, replaceChars_past plain, replaceChars_here,
    replaceChars_plain last, List.nil_append]

theorem contains_false {marker text : String} (begins : marker.toList.head? = some first)
    (plain : first ∉ text.toList) :
    contains marker text = false := by
  rw [contains, List.any_eq_false]
  intro rest member found
  have before := List.isPrefixOf_iff_prefix.mp found
  cases spelled : marker.toList with
  | nil => simp [spelled] at begins
  | cons c chars =>
    rw [spelled, List.head?_cons, Option.some.injEq] at begins
    subst begins
    rw [spelled] at before
    have inside : c ∈ rest := before.subset List.mem_cons_self
    exact plain (((List.mem_tails _ _).mp member).subset inside)

theorem contains_front {marker text : String} (begins : marker.toList <+: text.toList) :
    contains marker text = true :=
  List.any_eq_true.mpr ⟨_, ((List.mem_tails _ _).mpr (List.suffix_refl _)),
    List.isPrefixOf_iff_prefix.mpr begins⟩

end Text
