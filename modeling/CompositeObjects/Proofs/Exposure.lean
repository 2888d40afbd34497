import CompositeObjects.Proofs.Reachable
import CompositeObjects.Proofs.Walk

namespace CompositeObjects

namespace Configuration

/-- What is stored under a name, as it would be saved. -/
def stored? (name : String) : Configuration → Option Json
  | .verbatim .. => none
  | .composite node => node.content.stored? name

/-- What is stored under a name in the configuration that a path leads to. -/
def entryAt? (catalog : Catalog) (path : List String) (name : String) (c : Configuration) :
    Option Json :=
  (c.at? catalog path).bind (stored? name)

variable {catalog : Catalog}

theorem views_level (c : Configuration) : c.level.views catalog = c.views catalog := by
  cases c <;> rfl

theorem stored?_level (c : Configuration) (name : String) :
    c.level.stored? name = c.stored? name := by
  cases c <;> rfl

/-- A view shows what has been stored, and otherwise what it showed before. -/
theorem get?_views_store (c : Configuration) {changes : List (String × String)}
    (nodup : (changes.map (·.1)).Nodup) (name : String) :
    ((c.store changes).views catalog).get? name = ((c.views catalog).get? name).map
      fun view => { view with value := (Table.get? name changes).getD view.value } := by
  cases c with
  | verbatim => rfl
  | composite node =>
    change (Composite.views catalog { node with
      content := node.content.setAll changes }).get? name =
        ((Composite.views catalog node).get? name).map _
    rw [Composite.views, Composite.views]
    cases catalog.type? node.typeName with
    | none => rfl
    | some type =>
      dsimp only
      rw [Property.get?_views, Property.get?_views, Content.get?_setAll _ nodup, Option.map_map]
      congr 1
      funext p
      cases Table.get? name changes <;> rfl

theorem stored?_store (c : Configuration) {changes : List (String × String)}
    (nodup : (changes.map (·.1)).Nodup) (name : String) :
    (c.store changes).stored? name = c.stored? name ∨ ∃ value,
      Table.get? name changes = some value ∧
        (c.store changes).stored? name = some (.string value) := by
  cases c with
  | verbatim => exact Or.inl rfl
  | composite node =>
    have stored := node.content.stored?_setAll nodup name
    cases found : Table.get? name changes with
    | none =>
      rw [found] at stored
      exact Or.inl stored
    | some value =>
      rw [found] at stored
      exact Or.inr ⟨value, rfl, stored⟩

section Walked

variable {replies : List (Visit × String)} {before after : Configuration}

theorem Walked.exists_at? (h : Walked catalog replies before after) (path : List String) :
    (before.at? catalog path = none ∧ after.at? catalog path = none) ∨
      ∃ c c', before.at? catalog path = some c ∧ after.at? catalog path = some c' ∧
        c'.level = (c.store (changes path replies)).level := by
  have stored := h.stored path
  cases hbefore : before.at? catalog path with
  | none =>
    rw [hbefore] at stored
    exact Or.inl ⟨rfl, Option.map_eq_none_iff.1 stored⟩
  | some c =>
    rw [hbefore] at stored
    obtain ⟨c', hafter, same⟩ := Option.map_eq_some_iff.1 stored
    exact Or.inr ⟨c, c', rfl, hafter, same⟩

theorem Walked.viewAt? (h : Walked catalog replies before after)
    (once : (replies.map fun r => r.1.site).Nodup) (path : List String) (name : String) :
    after.viewAt? catalog path name = (before.viewAt? catalog path name).map fun view =>
      { view with value := (Table.get? name (changes path replies)).getD view.value } := by
  rw [Configuration.viewAt?, Configuration.viewAt?]
  rcases h.exists_at? path with ⟨hbefore, hafter⟩ | ⟨c, c', hbefore, hafter, same⟩
  · rw [hbefore, hafter]
    rfl
  · rw [hbefore, hafter, Option.bind_some, Option.bind_some, ← views_level c', same, views_level]
    exact get?_views_store c (nodup_changes once path) name

theorem Walked.entryAt? (h : Walked catalog replies before after)
    (once : (replies.map fun r => r.1.site).Nodup) (path : List String) (name : String) :
    after.entryAt? catalog path name = before.entryAt? catalog path name ∨ ∃ value,
      Table.get? name (changes path replies) = some value ∧
        after.entryAt? catalog path name = some (.string value) := by
  rw [Configuration.entryAt?, Configuration.entryAt?]
  rcases h.exists_at? path with ⟨hbefore, hafter⟩ | ⟨c, c', hbefore, hafter, same⟩
  · rw [hbefore, hafter]
    exact Or.inl rfl
  · rw [hbefore, hafter, Option.bind_some, Option.bind_some, ← stored?_level c', same,
      stored?_level]
    exact stored?_store c (nodup_changes once path) name

end Walked

/-- What a walk does. The walker is asked about every resource there is, once each: the own ones of
an object in the order of their names, then those under each declared child in turn. Each view then
shows the answer, every other view is as it was or as a lookup would have shown it, and nothing is
stored but new answers. All declared children have been made. -/
structure Exposed {σ : Type} (catalog : Catalog) (walker : Walker σ) (before : Configuration)
    (s : σ) (after : Configuration) (s' : σ) : Prop where
  complete : ∀ v, v ∈ before.tour catalog ↔ ∃ view,
    before.viewAt? catalog v.path v.name = some view ∧ view.resourceKind? = some v.kind ∧
      view.value = v.value
  once : ((before.tour catalog).map Visit.site).Nodup
  preorder : ∀ path c, before.at? catalog path = some c →
    (c.ownVisits catalog).Pairwise (·.name < ·.name) ∧
      c.tour catalog = c.ownVisits catalog ++ (c.childNames catalog).flatMap fun name =>
        ((c.at? catalog [name]).elim [] (tour catalog)).map (Visit.under name)
  state : s' = walker.final (before.tour catalog) s
  calls : ∃ r, before.walk catalog walker.recording (s, []) = some r ∧
    r.value.2 = (s', (before.tour catalog).map fun v => (v.kind, v.value))
  answered : ∀ r ∈ walker.replies (before.tour catalog) s, ∃ view,
    before.viewAt? catalog r.1.path r.1.name = some view ∧
      after.viewAt? catalog r.1.path r.1.name = some { view with value := r.2 }
  untouched : ∀ path name, (∀ v ∈ before.tour catalog, v.site ≠ (path, name)) →
    after.viewAt? catalog path name = before.viewAt? catalog path name
  stored : ∀ path name,
    after.entryAt? catalog path name ≠ before.entryAt? catalog path name →
      ∃ r ∈ walker.replies (before.tour catalog) s, r.1.site = (path, name) ∧
        r.2 ≠ r.1.value ∧ after.entryAt? catalog path name = some (.string r.2)
  expanded : ∀ path c, after.at? catalog path = some c → after.find? path = .ok (some c)

theorem fits_of_spans {levels : Nat} (spans : ∀ name, catalog.Spans levels name)
    (c : Configuration) : Fits catalog levels c := by
  cases c with
  | verbatim => trivial
  | composite node => exact spans node.typeName

/-- Where no type is within itself, a walk comes to its end after the tour. -/
theorem walk_tours {σ : Type} (settled : catalog.Settled) (acyclic : catalog.Acyclic)
    (distinct : catalog.DistinctChildren) {c : Configuration} (wt : WellTyped catalog c)
    (walker : Walker σ) (s : σ) :
    Tours catalog walker (c.tour catalog) c s (c.walk catalog walker s) := by
  have short := expands_of_wellTyped settled.defaults distinct wt
    (fits_of_spans (acyclic.spans_length settled.indexed) c)
  have long := expands_of_wellTyped settled.defaults distinct wt
    (fits_of_spans (spans_depthBound acyclic settled.indexed c) c)
  have tours := long.tours walker s
  rw [short.visits_unique long] at tours
  exact tours

/-- No resource is answered for twice. -/
theorem nodup_sites_replies {σ : Type} (distinct : catalog.DistinctChildren) (c : Configuration)
    (walker : Walker σ) (s : σ) :
    ((walker.replies (c.tour catalog) s).map fun r => r.1.site).Nodup := by
  have sites := congrArg (List.map Visit.site) (walker.map_fst_replies (c.tour catalog) s)
  rw [List.map_map] at sites
  exact sites ▸ nodup_visits distinct _ c

theorem exposed_of_walked {σ : Type} {walker : Walker σ} {before after : Configuration} {s : σ}
    (expands : Expands catalog (catalog.entries.length + 1) before)
    (distinct : catalog.DistinctChildren)
    (calls : ∃ r, before.walk catalog walker.recording (s, []) = some r ∧
      r.value.2 = walker.recording.final (before.tour catalog) (s, []))
    (walked : Walked catalog (walker.replies (before.tour catalog) s) before after) :
    Exposed catalog walker before s after (walker.final (before.tour catalog) s) := by
  have complete : ∀ v, v ∈ before.tour catalog ↔ ∃ view,
      before.viewAt? catalog v.path v.name = some view ∧ view.resourceKind? = some v.kind ∧
        view.value = v.value := expands.mem_visits_iff
  have once : ((before.tour catalog).map Visit.site).Nodup := nodup_visits distinct _ before
  have onceReplied := nodup_sites_replies distinct before walker s
  refine ⟨complete, once, fun path c reached => ?_, rfl, ?_, fun r hr => ?_,
    fun path name absent => ?_, fun path name changed => ?_, walked.expanded⟩
  · exact ⟨sorted_ownVisits c, (expands.at? reached).visits_unfold⟩
  · obtain ⟨r, ends, final⟩ := calls
    rw [walker.final_recording] at final
    exact ⟨r, ends, final⟩
  · obtain ⟨view, shown, -, hvalue⟩ := (complete r.1).1 (walker.mem_of_mem_replies hr)
    refine ⟨view, shown, ?_⟩
    rw [walked.viewAt? onceReplied, shown, get?_changes_of_mem onceReplied hr, Option.map_some]
    by_cases old : r.2 = r.1.value
    · rw [if_pos old, Option.getD_none, hvalue, old]
    · rw [if_neg old, Option.getD_some]
  · have nothing :
        Table.get? name (changes path (walker.replies (before.tour catalog) s)) = none := by
      rw [Table.get?_eq_none_iff, List.mem_map]
      rintro ⟨e, he, rfl⟩
      obtain ⟨r, hr, hpath, -, rfl⟩ := mem_changes_iff.1 he
      exact absent r.1 (walker.mem_of_mem_replies hr) (Prod.ext hpath rfl)
    rw [walked.viewAt? onceReplied, nothing]
    exact Option.map_id'
  · rcases walked.entryAt? onceReplied path name with same | ⟨value, found, stored⟩
    · exact absurd same changed
    · obtain ⟨r, hr, hpath, new, heq⟩ := mem_changes_iff.1 (Table.mem_of_get? found)
      obtain ⟨rfl, rfl⟩ := Prod.mk.inj heq
      exact ⟨r, hr, Prod.ext hpath rfl, new, stored⟩

/-- In a project without a type that is within itself, and without two children of one name in a
type, a walk of any configuration that operations make comes to its end and does what it should. -/
theorem walk_of_reachable {σ : Type} (accepted : catalog.Accepted) (acyclic : catalog.Acyclic)
    (distinct : catalog.DistinctChildren) {typeName : String} {c : Configuration}
    (run : Reachable catalog (.composite (.fresh typeName)) c) (walker : Walker σ) (s : σ) :
    ∃ r, c.walk catalog walker s = some r ∧
      Exposed catalog walker c s r.value.1 r.value.2 := by
  have settled := accepted.settled
  have wt := wellTyped_of_run accepted run
  have expands := expands_of_wellTyped settled.defaults distinct wt
    (fits_of_spans (acyclic.spans_length settled.indexed) c)
  obtain ⟨r, ends, state, walked⟩ := walk_tours settled acyclic distinct wt walker s
  obtain ⟨recorded, recordedEnds, calls, -⟩ :=
    walk_tours settled acyclic distinct wt walker.recording (s, [])
  refine ⟨r, ends, ?_⟩
  rw [state]
  exact exposed_of_walked expands distinct ⟨recorded, recordedEnds, calls⟩ walked

/-- Knights hold bags, and bags hold coins. -/
theorem acyclic_knightCatalog : knightCatalog.Acyclic := by
  let rank (name : String) : Nat :=
    if name = "Game::Knight" then 2 else if name = "Game::Bag" then 1 else 0
  have lower : ∀ e ∈ knightCatalog.entries, ∀ d ∈ e.type.children,
      ∀ node ∈ d.default.node?, rank node.typeName < rank e.name := by
    decide +kernel
  refine Catalog.acyclic_of_rank rank ?_
  rintro name child ⟨type, known, d, hd, node, hdefault, rfl⟩
  obtain ⟨e, he, rfl, rfl⟩ :=
    accepted_knightCatalog.settled.indexed.type?_eq_some_iff.1 known
  exact lower e he d hd node (by rw [hdefault]; rfl)

theorem distinctChildren_knightCatalog : knightCatalog.DistinctChildren := by
  have distinct : ∀ e ∈ knightCatalog.entries, (e.type.children.map Child.name).Nodup := by
    decide +kernel
  intro name type known
  obtain ⟨e, he, -, rfl⟩ := accepted_knightCatalog.settled.indexed.type?_eq_some_iff.1 known
  exact distinct e he

theorem walk_gildedKnight :
    knightCatalog.Accepted ∧ knightCatalog.Acyclic ∧ knightCatalog.DistinctChildren ∧
      Reachable knightCatalog (.composite (.fresh "Game::Knight")) gildedKnight ∧
      ∃ r, gildedKnight.walk knightCatalog ⟨fun _ name count => ("art/" ++ name, count + 1)⟩ 0 =
          some r ∧
        Exposed knightCatalog ⟨fun _ name count => ("art/" ++ name, count + 1)⟩ gildedKnight 0
          r.value.1 r.value.2 :=
  ⟨accepted_knightCatalog, acyclic_knightCatalog, distinctChildren_knightCatalog,
    reachable_gildedKnight, walk_of_reachable accepted_knightCatalog acyclic_knightCatalog
      distinctChildren_knightCatalog reachable_gildedKnight _ 0⟩

example : gildedKnight.tour knightCatalog = [⟨["bag", "coin"], "face", .image, "gold.png"⟩] := by
  decide +kernel

end Configuration
end CompositeObjects
