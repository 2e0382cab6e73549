import ViewMotion.Proofs.Gallery.SavePanel.Plan

/-!
This module contains what comes of laying out a save panel twice, whatever has been done to its
views before: the second time changes nothing and ends as the first time did.
-/

namespace ViewMotion.SavePanel

variable {K : Type} [Scalar K] {panel : SavePanel} {rows : List Row} {tree after : ViewTree K}

section Scrolling

/--
Everything that can come of scrolling a viewport by an offset that lies within the limits.
-/
inductive Scrolls (panel : SavePanel) (offset : K) (tree : ViewTree K) :
    EStateM.Result ViewError (ViewTree K) Unit → Prop where
  | gone (hkind : tree.kind? panel.viewport = none) :
    Scrolls panel offset tree (.error (.missing panel.viewport) tree)
  | other {kind : ViewKind K} {changed : ViewTree K}
      (hkind : tree.kind? panel.viewport = some kind)
      (hother : ∀ x, tree.kind? panel.viewport ≠ some (.scrollView x))
      (hchanged : tree.modifyKind? panel.viewport (scrollTo.withOffset offset) = some changed) :
    Scrolls panel offset tree (.error (.missing panel.viewport) changed)
  | empty {current : K} {changed : ViewTree K}
      (hkind : tree.kind? panel.viewport = some (.scrollView current))
      (hchanged : tree.modifyKind? panel.viewport (scrollTo.withOffset offset) = some changed)
      (hcontent : tree.bounds? panel.content = none) :
    Scrolls panel offset tree (.error (.missing panel.content) changed)
  | done {current : K} {changed : ViewTree K} {bounds : Rect K}
      (hkind : tree.kind? panel.viewport = some (.scrollView current))
      (hchanged : tree.modifyKind? panel.viewport (scrollTo.withOffset offset) = some changed)
      (hcontent : tree.bounds? panel.content = some bounds) :
    Scrolls panel offset tree
      (.ok () (changed.place panel.content (bounds.movedTo ⟨bounds.origin.x, -offset⟩)).2)

theorem scrollTo_scrolls (panel : SavePanel) (target : K) (tree : ViewTree K) :
    panel.Scrolls (clamped (panel.scrollLimit tree) target) tree (panel.scrollTo target tree) := by
  unfold scrollTo clamped
  rw [Ends.get_bind_eq]
  dsimp only
  generalize Scalar.min (Scalar.max 0 target) (panel.scrollLimit tree) = offset
  cases hkind : tree.kind? panel.viewport with
  | none =>
    unfold ViewTree.modifyKind?
    rw [hkind]
    exact .gone hkind
  | some kind =>
    have hchanged : ∃ changed,
        tree.modifyKind? panel.viewport (scrollTo.withOffset offset) = some changed := by
      unfold ViewTree.modifyKind?
      rw [hkind]
      exact ⟨_, rfl⟩
    rcases hchanged with ⟨changed, hchanged⟩
    rw [hchanged, Layout.require_some_bind_eq]
    cases kind with
    | scrollView current =>
      cases hcontent : tree.bounds? panel.content with
      | none => exact .empty hkind hchanged hcontent
      | some bounds => exact .done hkind hchanged hcontent
    | _ => exact .other hkind (hkind ▸ nofun) hchanged

theorem Scrolls.eq {offset : K} {result result' : EStateM.Result ViewError (ViewTree K) Unit}
    (h : panel.Scrolls offset tree result) (h' : panel.Scrolls offset tree result') :
    result = result' := by
  cases h with
  | gone hkind => cases h' <;> simp_all
  | other hkind hother hchanged =>
    cases h' with
    | empty hkind' => exact absurd hkind' (hother _)
    | done hkind' => exact absurd hkind' (hother _)
    | _ => simp_all
  | empty hkind hchanged hcontent =>
    cases h' with
    | other _ hother => exact absurd hkind (hother _)
    | _ => simp_all
  | done hkind hchanged hcontent =>
    cases h' with
    | other _ hother => exact absurd hkind (hother _)
    | _ => simp_all

/--
To which offset the viewport is scrolled depends on sizes only, and no longer on how far it was
scrolled once it lies within the limits.
-/
theorem rescroll_eq {offset : K} {result : EStateM.Result ViewError (ViewTree K) Unit}
    (hoffset : clamped (panel.scrollLimit tree) (panel.scrolled tree) = offset)
    (h : panel.Scrolls offset tree result) : panel.rescroll tree = result := by
  have hscrolls := panel.scrollTo_scrolls (panel.scrolled tree) tree
  rw [hoffset] at hscrolls
  rw [rescroll_eq_scrollTo]
  exact hscrolls.eq h

end Scrolling

section Rescrolling

theorem scrollLimit_congr
    (h : ∀ v, (after.bounds? v).map Rect.size = (tree.bounds? v).map Rect.size) :
    panel.scrollLimit after = panel.scrollLimit tree := by
  have hheight (v : ViewId) : scrollLimit.height after v = scrollLimit.height tree v := by
    have hv := h v
    unfold scrollLimit.height
    cases hafter : after.bounds? v <;> cases htree : tree.bounds? v <;>
      simp_all
  unfold scrollLimit
  rw [hheight, hheight]

variable [LawfulScalar K]

theorem clamped_scrolled {offset : K}
    (hsizes : ∀ v, (after.bounds? v).map Rect.size = (tree.bounds? v).map Rect.size)
    (hkind : after.kind? panel.viewport =
      some (.scrollView (clamped (panel.scrollLimit tree) offset))) :
    clamped (panel.scrollLimit after) (panel.scrolled after) =
      clamped (panel.scrollLimit tree) offset := by
  unfold scrolled
  rw [hkind, scrollLimit_congr hsizes]
  exact Scalar.clamp_clamp offset _

omit [Scalar K] [LawfulScalar K] in
theorem withOffset_other (offset : K) {kind : ViewKind K} (h : ∀ x, kind ≠ .scrollView x) :
    scrollTo.withOffset offset kind = kind := by
  cases kind with
  | scrollView current => exact absurd rfl (h current)
  | _ => rfl

omit [LawfulScalar K] in
theorem withOffset_naturalSize (offset : K) (kind : ViewKind K) :
    (scrollTo.withOffset offset kind).naturalSize = kind.naturalSize := by
  cases kind <;> rfl

/--
Content that is as far up as the viewport is scrolled stays there.
-/
theorem rescroll_moved {offset : K} {bounds : Rect K}
    (hkind : tree.kind? panel.viewport = some (.scrollView offset))
    (hdamaged : panel.viewport ∈ tree.damaged)
    (hcontent : tree.bounds? panel.content = some bounds)
    (hoffset : clamped (panel.scrollLimit tree) offset = offset) :
    let after := (tree.place panel.content (bounds.movedTo ⟨bounds.origin.x, -offset⟩)).2
    panel.rescroll after = .ok () after := by
  let moved := bounds.movedTo ⟨bounds.origin.x, -offset⟩
  let after := (tree.place panel.content moved).2
  have hsizes (v : ViewId) :
      (after.bounds? v).map Rect.size = (tree.bounds? v).map Rect.size := by
    rw [ViewTree.place_bounds?]
    split
    · next heq =>
      rw [← heq, hcontent]
      rfl
    · rfl
  have hkind' : after.kind? panel.viewport = some (.scrollView offset) := by
    unfold ViewTree.kind?
    rw [ViewTree.place_kinds]
    exact hkind
  have hdamaged' : panel.viewport ∈ after.damaged := by
    rw [ViewTree.place_mem_damaged]
    exact Or.inl hdamaged
  have hcontent' : after.bounds? panel.content = some moved := by
    rw [ViewTree.place_bounds?, if_pos rfl, hcontent]
    rfl
  have hclamped : clamped (panel.scrollLimit after) (panel.scrolled after) = offset := by
    unfold scrolled
    rw [hkind', scrollLimit_congr hsizes]
    exact hoffset
  have hself := ViewTree.modifyKind?_eq_self hkind'
    (rfl : scrollTo.withOffset offset _ = _) hdamaged'
  have hscrolls : panel.Scrolls offset after (.ok () (after.place panel.content
    (moved.movedTo ⟨moved.origin.x, -offset⟩)).2) := .done hkind' hself hcontent'
  calc panel.rescroll after
    _ = .ok () (after.place panel.content moved).2 := rescroll_eq hclamped hscrolls
    _ = .ok () after := by rw [ViewTree.place_settled panel.content moved tree]

theorem rescroll_repeats (panel : SavePanel) (tree : ViewTree K) :
    Repeats panel.rescroll tree := by
  have hscrolls := panel.scrollTo_scrolls (panel.scrolled tree) tree
  rw [← rescroll_eq_scrollTo] at hscrolls
  unfold Repeats Ends
  generalize panel.rescroll tree = result at hscrolls
  cases hscrolls with
  | gone hkind => exact rescroll_eq rfl (.gone hkind)
  | @other kind changed hkind hother hchanged =>
    have hsame (offset : K) : scrollTo.withOffset offset kind = kind :=
      withOffset_other offset fun x heq => hother x (heq ▸ hkind)
    have hkind' : changed.kind? panel.viewport = some kind := by
      rw [ViewTree.modifyKind?_kind? hchanged, if_pos rfl, hkind, Option.map_some, hsame]
    apply rescroll_eq rfl (.other hkind' _ _)
    · rw [hkind', ← hkind]
      exact hother
    · exact ViewTree.modifyKind?_eq_self hkind' (hsame _)
        (ViewTree.mem_damaged_of_modifyKind? hchanged)
  | @empty current changed hkind hchanged hcontent =>
    have hkeeps := ViewTree.modifyKind?_keeps hchanged (withOffset_naturalSize _)
    have hkind' := ViewTree.modifyKind?_kind? hchanged panel.viewport
    rw [if_pos rfl, hkind, Option.map_some] at hkind'
    apply rescroll_eq (clamped_scrolled _ hkind') (.empty hkind' _ _)
    · intro v
      rw [hkeeps.bounds?_eq (Set.notMem_empty v)]
    · exact ViewTree.modifyKind?_eq_self hkind' rfl (ViewTree.mem_damaged_of_modifyKind? hchanged)
    · rw [hkeeps.bounds?_eq (Set.notMem_empty _), hcontent]
  | @done current changed bounds hkind hchanged hcontent =>
    have hkeeps := ViewTree.modifyKind?_keeps hchanged (withOffset_naturalSize _)
    have hsame (v : ViewId) : changed.bounds? v = tree.bounds? v :=
      hkeeps.bounds?_eq (Set.notMem_empty v)
    have hkind' := ViewTree.modifyKind?_kind? hchanged panel.viewport
    rw [if_pos rfl, hkind, Option.map_some] at hkind'
    apply rescroll_moved hkind' (ViewTree.mem_damaged_of_modifyKind? hchanged)
    · rw [hsame, hcontent]
    · have hlimit : panel.scrollLimit changed = panel.scrollLimit tree :=
        scrollLimit_congr fun v => by rw [hsame]
      rw [hlimit]
      exact Scalar.clamp_clamp (panel.scrolled tree) _

end Rescrolling

section Layout

/--
Everything is where the plan says.
-/
def FollowsPlan (panel : SavePanel) (rows : List Row) (size : Size K) (tree : ViewTree K) : Prop :=
  ∀ entry ∈ panel.plan tree size (panel.top tree) rows, ViewTree.Settled entry.1 entry.2 tree

theorem FollowsPlan.of_keeps {size : Size K} (h : panel.FollowsPlan rows size tree)
    (hkeeps : ViewTree.Keeps ∅ tree after) : panel.FollowsPlan rows size after := by
  unfold FollowsPlan top at h ⊢
  rw [plan_congr hkeeps.naturalSize_eq, hkeeps.bounds?_eq (Set.notMem_empty _)]
  exact fun entry hentry => hkeeps.settled (Set.notMem_empty _) (h entry hentry)

theorem rescroll_keeps (panel : SavePanel) (tree : ViewTree K) :
    Ends panel.rescroll tree (fun _ after => ViewTree.Keeps {panel.content} tree after)
      fun _ after => ViewTree.Keeps {panel.content} tree after := by
  have hscrolls := panel.scrollTo_scrolls (panel.scrolled tree) tree
  rw [← rescroll_eq_scrollTo] at hscrolls
  have hchanged {offset : K} {changed : ViewTree K} (h : tree.modifyKind? panel.viewport
      (scrollTo.withOffset offset) = some changed) :
      ViewTree.Keeps {panel.content} tree changed :=
    (ViewTree.modifyKind?_keeps h (withOffset_naturalSize offset)).mono (Set.empty_subset _)
  unfold Ends
  generalize panel.rescroll tree = result at hscrolls
  cases hscrolls with
  | gone hkind => exact .refl _ tree
  | other _ _ h => exact hchanged h
  | empty _ h _ => exact hchanged h
  | done _ h _ => exact (hchanged h).trans (ViewTree.place_keeps (Set.mem_singleton _) _ _)

theorem rescroll_succeeds {current : K} {bounds : Rect K}
    (hkind : tree.kind? panel.viewport = some (.scrollView current))
    (hcontent : tree.bounds? panel.content = some bounds) :
    Succeeds panel.rescroll tree fun _ after => ViewTree.Keeps {panel.content} tree after ∧
      (after.bounds? panel.content).map Rect.size = some bounds.size := by
  have hscrolls := panel.scrollTo_scrolls (panel.scrolled tree) tree
  rw [← rescroll_eq_scrollTo] at hscrolls
  have hkeeps := panel.rescroll_keeps tree
  unfold Succeeds Ends at *
  generalize panel.rescroll tree = result at hscrolls hkeeps
  cases hscrolls with
  | gone hnone =>
    rw [hkind] at hnone
    contradiction
  | other _ hother => exact absurd hkind (hother current)
  | empty _ _ hnone =>
    rw [hcontent] at hnone
    contradiction
  | done _ hchanged hsome =>
    have hsame := (ViewTree.modifyKind?_keeps hchanged (withOffset_naturalSize _)).bounds?_eq
      (Set.notMem_empty panel.content)
    refine ⟨hkeeps, ?_⟩
    rw [ViewTree.place_bounds?, if_pos rfl, hsame, hcontent]
    rw [hcontent] at hsome
    injection hsome with heq
    rw [heq]
    rfl

variable [LawfulScalar K]

theorem placeAll_followsPlan (hnodup : (panel.views rows).Nodup) (size : Size K)
    (tree : ViewTree K) :
    panel.FollowsPlan rows size (tree.placeAll (panel.plan tree size (panel.top tree) rows)) := by
  have hkeys := nodup_plan hnodup tree size (panel.top tree)
  have hkeeps := ViewTree.placeAll_keeps (panel.plan tree size (panel.top tree) rows) tree
  have htop : panel.top (tree.placeAll (panel.plan tree size (panel.top tree) rows)) =
      panel.top tree := by
    have hcontent : (panel.content, ⟨⟨0, panel.top tree⟩, gridSize tree rows⟩) ∈
        panel.plan tree size (panel.top tree) rows :=
      List.mem_append_right _ List.mem_cons_self
    have hplaced := tree.placeAll_bounds? hkeys hcontent
    unfold top at hplaced ⊢
    rw [hplaced]
    cases tree.bounds? panel.content <;> rfl
  unfold FollowsPlan
  rw [htop, plan_congr hkeeps.naturalSize_eq]
  exact ViewTree.placeAll_settled hkeys tree

/--
Only the content is moved, and the plan follows it.
-/
theorem FollowsPlan.place {size : Size K} (h : panel.FollowsPlan rows size tree)
    (hnodup : (panel.views rows).Nodup) {bounds : Rect K}
    (hcontent : tree.bounds? panel.content = some bounds) (y : K) :
    panel.FollowsPlan rows size
      (tree.place panel.content (bounds.movedTo ⟨bounds.origin.x, y⟩)).2 := by
  have hplanned : (panel.content, ⟨⟨0, panel.top tree⟩, gridSize tree rows⟩) ∈
      panel.plan tree size (panel.top tree) rows := List.mem_append_right _ List.mem_cons_self
  have hbounds := (h _ hplanned).bounds?_eq hcontent
  rw [hbounds]
  dsimp only [Rect.movedTo]
  have hkeeps := ViewTree.place_keeps (Set.mem_singleton panel.content)
    ⟨⟨0, y⟩, gridSize tree rows⟩ tree
  have htop : panel.top (tree.place panel.content ⟨⟨0, y⟩, gridSize tree rows⟩).2 = y := by
    unfold top
    rw [ViewTree.place_bounds?, if_pos rfl, hcontent]
    rfl
  unfold FollowsPlan
  rw [htop, plan_congr hkeeps.naturalSize_eq]
  intro entry hentry
  rcases mem_plan_iff.mp hentry with heq | hfixed
  · rw [heq]
    exact ViewTree.place_settled panel.content _ tree
  · exact hkeeps.settled (ne_content_of_mem_fixedPlan hnodup hfixed)
      (h entry (mem_plan_iff.mpr (Or.inr hfixed)))

theorem rescroll_followsPlan (hnodup : (panel.views rows).Nodup) {size : Size K}
    (h : panel.FollowsPlan rows size tree) :
    Ends panel.rescroll tree (fun _ after => panel.FollowsPlan rows size after)
      fun _ after => panel.FollowsPlan rows size after := by
  have hscrolls := panel.scrollTo_scrolls (panel.scrolled tree) tree
  rw [← rescroll_eq_scrollTo] at hscrolls
  unfold Ends
  generalize panel.rescroll tree = result at hscrolls
  cases hscrolls with
  | gone hkind => exact h
  | other hkind hother hchanged =>
    exact h.of_keeps (ViewTree.modifyKind?_keeps hchanged (withOffset_naturalSize _))
  | empty hkind hchanged hcontent =>
    exact h.of_keeps (ViewTree.modifyKind?_keeps hchanged (withOffset_naturalSize _))
  | done hkind hchanged hcontent =>
    have hkeeps := ViewTree.modifyKind?_keeps hchanged (withOffset_naturalSize _)
    rw [← hkeeps.bounds?_eq (Set.notMem_empty _)] at hcontent
    exact (h.of_keeps hkeeps).place hnodup hcontent _

section Repeating

variable (hnodup : (panel.views rows).Nodup)

include hnodup

omit [LawfulScalar K] in
theorem layout_keeps :
    Along (ViewTree.Keeps (K := K) {v | v ∈ panel.inside rows}) (panel.layout rows) := by
  intro tree
  cases houter : tree.bounds? panel.outer with
  | none => exact Ends.of_error (layout_eq_of_none houter rows) (.refl _ tree)
  | some bounds =>
    have hplan := ViewTree.placeAll_keeps
      (panel.plan tree bounds.size (panel.top tree) rows) tree
    rw [map_fst_plan] at hplan
    have hcontent : {panel.content} ⊆ {v | v ∈ panel.inside rows} := by
      simp [inside]
    apply Ends.of_apply_eq (layout_eq_of_some hnodup houter)
    apply (panel.rescroll_keeps _).mono
    · exact fun _ after h => hplan.trans (h.mono hcontent)
    · exact fun _ after h => hplan.trans (h.mono hcontent)

omit [LawfulScalar K] in
theorem layout_eq_rescroll {bounds : Rect K} (houter : tree.bounds? panel.outer = some bounds)
    (h : panel.FollowsPlan rows bounds.size tree) :
    panel.layout rows tree = panel.rescroll tree := by
  rw [layout_eq_of_some hnodup houter, ViewTree.placeAll_eq_self h]

theorem layout_repeats (tree : ViewTree K) : Repeats (panel.layout rows) tree := by
  cases houter : tree.bounds? panel.outer with
  | none =>
    have hlayout := layout_eq_of_none houter rows
    exact Ends.of_error hlayout hlayout
  | some bounds =>
    let plan := panel.plan tree bounds.size (panel.top tree) rows
    have hplan : panel.outer ∉ plan.map Prod.fst := outer_notMem_plan hnodup tree bounds.size _
    have hfollows : panel.FollowsPlan rows bounds.size (tree.placeAll plan) :=
      placeAll_followsPlan hnodup bounds.size tree
    have houter' : (tree.placeAll plan).bounds? panel.outer = some bounds := by
      rw [(ViewTree.placeAll_keeps plan tree).bounds?_eq hplan, houter]
    have hagain {after : ViewTree K}
        (hkeeps : ViewTree.Keeps {panel.content} (tree.placeAll plan) after)
        (h : panel.FollowsPlan rows bounds.size after) :
        panel.layout rows after = panel.rescroll after := by
      apply layout_eq_rescroll hnodup _ h
      rw [hkeeps.bounds?_eq (outer_ne_content hnodup), houter']
    apply Ends.of_apply_eq (layout_eq_of_some hnodup houter)
    apply ((panel.rescroll_repeats _).and
      ((panel.rescroll_keeps _).and (rescroll_followsPlan hnodup hfollows))).mono
    · intro _ after ⟨hrepeats, hkeeps, h⟩
      rw [hagain hkeeps h, hrepeats]
    · intro _ after ⟨hrepeats, hkeeps, h⟩
      rw [hagain hkeeps h, hrepeats]

omit [LawfulScalar K] in
theorem fit_keeps :
    Along (ViewTree.Keeps (K := K) {v | v ∈ panel.views rows}) (panel.fit rows) := by
  intro tree
  cases houter : tree.bounds? panel.outer with
  | none => exact Ends.of_error (fit_eq_of_none houter rows) (.refl _ tree)
  | some bounds =>
    have hplaced : ViewTree.Keeps {v | v ∈ panel.views rows} tree (tree.place panel.outer
        ⟨bounds.origin, panel.naturalSize tree rows⟩).2 :=
      ViewTree.place_keeps (by simp [views]) _ tree
    have hinside : {v | v ∈ panel.inside rows} ⊆ {v | v ∈ panel.views rows} :=
      fun v hv => List.mem_cons_of_mem _ hv
    apply Ends.of_apply_eq (fit_eq_of_some houter rows)
    apply (layout_keeps hnodup _).mono
    · exact fun _ after h => hplaced.trans (h.mono hinside)
    · exact fun _ after h => hplaced.trans (h.mono hinside)

omit [LawfulScalar K] in
/--
The panel itself stays where it is.
-/
theorem fit_places_outer {bounds : Rect K} (houter : tree.bounds? panel.outer = some bounds) :
    Ends (panel.fit rows) tree
      (fun _ after => after.bounds? panel.outer =
        some ⟨bounds.origin, panel.naturalSize tree rows⟩)
      fun _ after => after.bounds? panel.outer =
        some ⟨bounds.origin, panel.naturalSize tree rows⟩ := by
  have houtside : panel.outer ∉ {v | v ∈ panel.inside rows} := (List.nodup_cons.mp hnodup).1
  have hplaced := tree.place_bounds? panel.outer panel.outer
    ⟨bounds.origin, panel.naturalSize tree rows⟩
  rw [if_pos rfl, houter, Option.map_some] at hplaced
  apply Ends.of_apply_eq (fit_eq_of_some houter rows)
  apply (layout_keeps hnodup _).mono
  · exact fun _ _ hkeeps => (hkeeps.bounds?_eq houtside).trans hplaced
  · exact fun _ _ hkeeps => (hkeeps.bounds?_eq houtside).trans hplaced

theorem fit_repeats (tree : ViewTree K) : Repeats (panel.fit rows) tree := by
  cases houter : tree.bounds? panel.outer with
  | none =>
    have hfit := fit_eq_of_none houter rows
    exact Ends.of_error hfit hfit
  | some bounds =>
    let target : Rect K := ⟨bounds.origin, panel.naturalSize tree rows⟩
    let placed := (tree.place panel.outer target).2
    have hplaced : placed.naturalSize = tree.naturalSize :=
      (ViewTree.place_keeps (Set.mem_singleton _) target tree).naturalSize_eq
    have hsettled : ViewTree.Settled panel.outer target placed :=
      ViewTree.place_settled panel.outer target tree
    have hbounds : placed.bounds? panel.outer = some target := by
      rw [ViewTree.place_bounds?, if_pos rfl, houter]
      rfl
    have houtside : panel.outer ∉ {v | v ∈ panel.inside rows} := (List.nodup_cons.mp hnodup).1
    have hagain {after : ViewTree K}
        (hkeeps : ViewTree.Keeps {v | v ∈ panel.inside rows} placed after) :
        panel.fit rows after = panel.layout rows after := by
      have hafter : after.bounds? panel.outer = some target := by
        rw [hkeeps.bounds?_eq houtside, hbounds]
      have hstays := hkeeps.settled houtside hsettled
      rw [fit_eq_of_some hafter, naturalSize_congr (hkeeps.naturalSize_eq.trans hplaced), hstays]
    apply Ends.of_apply_eq (fit_eq_of_some houter rows)
    apply ((layout_repeats hnodup _).and (layout_keeps hnodup _)).mono
    · intro _ after ⟨hrepeats, hkeeps⟩
      rw [hagain hkeeps, hrepeats]
    · intro _ after ⟨hrepeats, hkeeps⟩
      rw [hagain hkeeps, hrepeats]

end Repeating

/--
The views of a panel have been added under names of their own. Apart from that nothing is known of
them: they may be gone, be of another kind or be anywhere, and the viewport may be scrolled by what
is not a number.
-/
theorem layout_and_fit_settle (panel : SavePanel) (rows : List Row)
    (hnodup : (panel.views rows).Nodup) (tree : ViewTree K) :
    Repeats (panel.layout rows) tree ∧ Repeats (panel.fit rows) tree ∧
      (∀ v ∉ panel.inside rows, Ends (panel.layout rows) tree
        (fun _ after => after.bounds? v = tree.bounds? v)
        fun _ after => after.bounds? v = tree.bounds? v) ∧
      ∀ v ∉ panel.views rows, Ends (panel.fit rows) tree
        (fun _ after => after.bounds? v = tree.bounds? v)
        fun _ after => after.bounds? v = tree.bounds? v := by
  refine ⟨layout_repeats hnodup tree, fit_repeats hnodup tree, ?_, ?_⟩
  · intro v hv
    exact (layout_keeps hnodup tree).mono (fun _ _ h => h.bounds?_eq hv)
      fun _ _ h => h.bounds?_eq hv
  · intro v hv
    exact (fit_keeps hnodup tree).mono (fun _ _ h => h.bounds?_eq hv)
      fun _ _ h => h.bounds?_eq hv

theorem layout_and_fit_settle_half_removed :
    let panel : SavePanel := ⟨⟨1⟩, ⟨2⟩, ⟨3⟩, ⟨4⟩, ⟨5⟩, ⟨6⟩⟩
    let rows : List Row := [⟨0, ⟨7⟩, ⟨8⟩, ⟨9⟩, ⟨10⟩⟩]
    let tree : ViewTree Extended := (ViewTree.ofRoot ⟨0⟩)
      |>.enter ⟨1⟩ .container |>.enter ⟨5⟩ (.scrollView .nan) |>.enter ⟨6⟩ (.label "content")
      |>.enter ⟨8⟩ (.label "file")
    (panel.views rows).Nodup ∧ panel.scrolled tree = .nan ∧ tree.bounds? panel.bar = none ∧
      Repeats (panel.layout rows) tree ∧ Repeats (panel.fit rows) tree ∧
        (∀ v ∉ panel.inside rows, Ends (panel.layout rows) tree
          (fun _ after => after.bounds? v = tree.bounds? v)
          fun _ after => after.bounds? v = tree.bounds? v) ∧
        ∀ v ∉ panel.views rows, Ends (panel.fit rows) tree
          (fun _ after => after.bounds? v = tree.bounds? v)
          fun _ after => after.bounds? v = tree.bounds? v := by
  intro panel rows tree
  have hnodup : (panel.views rows).Nodup := by decide
  exact ⟨hnodup, by decide +kernel, by decide +kernel, layout_and_fit_settle panel rows hnodup tree⟩

end Layout

end ViewMotion.SavePanel
