import TypedDocs.Pattern.Basic
import TypedDocs.Proofs.Query.Assigned
import TypedDocs.Proofs.Store.Admission

/-!
# Created documents

A document is created as a blank one, which has its identity, over which the values are written.
When the values have their shape, the document is a match of the values, in the scope of the
classifier it was created for, and of itself, in the scope of its class.

    Shaped h (.instanceOf c) (.object values) → (s.create c values id).result = .ok doc →
      matchDocument h c doc values = .ok true ∧
        matchDocument h (Document.className doc) doc doc = .ok true     (matchDocument_created)
-/

namespace TypedDocs.Store

open Assignment Query

section Engine

variable {ρ : Type} [Pattern.Engine ρ]
variable {h : Hierarchy} {s : Store} {classId concrete id : String} {values : Layout}
  {doc : Document}

/-! ## Blank documents -/

theorem get?_blankDocument_classKey :
    (blankDocument h classId concrete id).get? Document.classKey = some (.string concrete) := by
  rw [blankDocument]
  split
  · rfl
  · rfl

theorem get?_blankDocument_mixinsKey (hm : h.isMixin classId = true) :
    (blankDocument h classId concrete id).get? Document.mixinsKey =
      some (.array [.string classId]) := by
  rw [blankDocument, if_pos hm]
  rfl

theorem mixins_blankDocument (h : Hierarchy) (classId concrete id : String) :
    Document.mixins (blankDocument h classId concrete id) =
      if h.isMixin classId then [classId] else [] := by
  rw [blankDocument]
  split
  · rfl
  · rfl

theorem sorted_blankDocument (h : Hierarchy) (classId concrete id : String) :
    (blankDocument h classId concrete id).Sorted := by
  have hbase : Keyed.Sorted (Keyed.insert (Keyed.insert [] Document.idKey (.string id))
      Document.classKey (Value.string concrete)) :=
    Keyed.Sorted.insert (Keyed.Sorted.insert List.Pairwise.nil _ _) _ _
  rw [blankDocument]
  split
  · exact hbase.insert _ _
  · exact hbase

/-- The fields of a blank document are internal and match themselves. -/
theorem internal_blankDocument (h : Hierarchy) (classId concrete id : String) :
    Internal h (blankDocument h classId concrete id) := by
  have hstring (text : String) : matchValue h true none (.string text) (.string text) = .ok .hit :=
    matchValue_scalar none rfl
  have hmixins : Agrees h (.arrayOf .string) (.array [.string classId])
      (.array [.string classId]) :=
    agrees_array rfl (List.Forall₂.cons (hstring classId) .nil)
  have hbase : Internal h (Keyed.insert (Keyed.insert [] Document.idKey (.string id))
      Document.classKey (.string concrete)) := by
    intro e he
    rcases Keyed.mem_insert he with rfl | he
    · exact ⟨Document.isInternal_classKey, hstring concrete⟩
    · rcases Keyed.mem_insert he with rfl | he
      · exact ⟨Document.isInternal_idKey, hstring id⟩
      · cases he
  rw [blankDocument]
  split
  · intro e he
    rcases Keyed.mem_insert he with rfl | he
    · exact ⟨Document.isInternal_mixinsKey, hmixins⟩
    · exact hbase e he
  · exact hbase

/-! ## Creation -/

theorem newDocument_of_create (hc : (s.create classId values id).result = .ok doc) :
    ∃ concrete, s.newDocument classId values id = .ok (doc, concrete) := by
  rw [create] at hc
  split at hc
  · cases hc
  · cases hn : s.newDocument classId values id with
    | error fault =>
      rw [hn] at hc
      cases hc
    | ok made =>
      rw [hn] at hc
      cases hc
      exact ⟨made.2, rfl⟩

/-- Without internal keys among the values, a new document is a blank one over which they are
written. -/
theorem newDocument_eq_overlay (hinternal : ∀ e ∈ values, Key.isInternal e.1 = false)
    (hn : s.newDocument classId values id = .ok (doc, concrete)) :
    ∃ writes, List.Forall₂ (Writes s.hierarchy s.strict classId) values writes ∧
      doc = Keyed.overlay (blankDocument s.hierarchy classId concrete id) writes := by
  obtain ⟨-, ha, -⟩ := newDocument_eq_ok hn
  have htag : Document.tag? (blankDocument s.hierarchy classId concrete id) = some concrete :=
    Document.tag?_eq_some_iff.2 get?_blankDocument_classKey
  rw [assign, withTag_of_tag? htag] at ha
  simp only at ha
  have hkeeps := keepsTag_of_get? (get?_classKey_of_internal hinternal)
  exact (assignEntries_eq_ok_iff htag hkeeps).1 ha

/-! ## Scopes -/

theorem inScope_concreteClass (hb : h.concreteClass classId = .ok concrete)
    (hc : Document.className doc = concrete) : inScope h concrete doc = true := by
  obtain ⟨c, hfind, hk⟩ := Hierarchy.find?_concreteClass hb
  have hm : h.isMixin concrete = false := by simp [Hierarchy.isMixin, hfind, Classifier.isMixin, hk]
  rw [inScope, hm, hc]
  exact Hierarchy.isSubtype_refl hfind

/-- A document of the concrete class of a classifier is in the scope of the classifier, when the
classifier, if it is a mixin, is applied. -/
theorem inScope_of_className (hb : h.concreteClass classId = .ok concrete)
    (hc : Document.className doc = concrete)
    (hm : h.isMixin classId = true → classId ∈ Document.mixins doc) :
    inScope h classId doc = true := by
  cases hmixin : h.isMixin classId with
  | false =>
    obtain ⟨⟨c, hfind⟩, -⟩ := Hierarchy.find?_of_isSubtype (Hierarchy.isSubtype_concreteClass hb)
    have hself := Hierarchy.concreteClass_self hfind
      (Hierarchy.kind_of_isMixin_eq_false hmixin hfind)
    rw [hb] at hself
    cases hself
    exact inScope_concreteClass hb hc
  | true =>
    obtain ⟨c, hfind, -⟩ := Hierarchy.isMixin_eq_true_iff.1 hmixin
    obtain ⟨b, hbase, -⟩ := Hierarchy.find?_concreteClass hb
    have hany : (Document.mixins doc).any (fun m => h.isSubtype m classId) = true :=
      List.any_eq_true.2 ⟨classId, hm hmixin, Hierarchy.isSubtype_refl hfind⟩
    simp [inScope, hmixin, hb, hc, hany, Hierarchy.isSubtype_refl hbase]

/-! ## Main statement -/

/-- A document that is created from values of their shape matches them in the scope of the
classifier it was created for, and itself in the scope of its class. -/
theorem matchDocument_created (ho : values.Ordered)
    (hs : Shaped s.hierarchy (.instanceOf classId) (.object values))
    (hc : (s.create classId values id).result = .ok doc) :
    Query.matchDocument s.hierarchy classId doc values = .ok true ∧
      Query.matchDocument s.hierarchy (Document.className doc) doc doc = .ok true := by
  obtain ⟨concrete, hn⟩ := newDocument_of_create hc
  obtain ⟨hb, -, -, -, hclass, -⟩ := newDocument_eq_ok hn
  obtain ⟨-, hordered⟩ := Layout.ordered_iff.1 ho
  cases hs with
  | scalar htype _ => cases htype
  | object hinternal hpattern hapart hmixin hshape =>
    obtain ⟨writes, hws, hdoc⟩ := newDocument_eq_overlay hinternal hn
    have hagree : FieldsAgree s.hierarchy s.strict classId values := fun e he attr hattr =>
      madeAgrees_of_shaped (hshape e he attr hattr) (hordered e he)
    have happlied : s.hierarchy.isMixin classId = true → classId ∈ Document.mixins doc := by
      intro hm
      have hget : doc.get? Document.mixinsKey = some (.array [.string classId]) := by
        rw [hdoc, get?_overlay_of_isInternal hws hinternal _ Document.isInternal_mixinsKey]
        exact get?_blankDocument_mixinsKey hm
      simp [Document.mixins, hget, Value.string?]
    have hwritten := fieldAgrees_written hws (nodup_writes hws hinternal hapart) hinternal hagree
      (blankDocument s.hierarchy classId concrete id)
    have hown := fieldAgrees_own hws (sorted_blankDocument s.hierarchy classId concrete id)
      (internal_blankDocument s.hierarchy classId concrete id) hinternal hmixin hagree (.inr hb)
    rw [← hdoc] at hwritten hown
    constructor
    · rw [Query.matchDocument, inScope_of_className hb hclass happlied, if_pos rfl]
      exact matchFields_eq_true hwritten
    · rw [Query.matchDocument, hclass, inScope_concreteClass hb hclass, if_pos rfl]
      exact matchFields_eq_true hown

end Engine

theorem matchDocument_estimated_task :
    ∃ values doc, values = [("name", .string "t"), ("tasks", .array [.object [("rate", .null)]])] ∧
      ((empty .tasks true).create "Estimate" values "t1").result = .ok doc ∧
      Query.matchDocument .tasks "Estimate" doc values = .ok true ∧
      Query.matchDocument .tasks "Task" doc doc = .ok true := by
  have hrate : Hierarchy.resolveKey .tasks "SubTask" "rate" =
      .ok ⟨⟨"rate", .number⟩, "SubTask", .plain "rate"⟩ := rfl
  have hname : Hierarchy.resolveKey .tasks "Estimate" "name" =
      .ok ⟨⟨"name", .string⟩, "Estimate", .qualified "name" "Estimate"⟩ := rfl
  have htasks : Hierarchy.resolveKey .tasks "Estimate" "tasks" =
      .ok ⟨⟨"tasks", .arrayOf (.instanceOf "SubTask")⟩, "Task", .plain "tasks"⟩ := rfl
  have hplain (key : String) (hp : Key.parse key = .plain key) :
      Hierarchy.ReadsMixin .tasks key := by
    intro name mixin r hq
    rw [hp] at hq
    cases hq
  have hsub : Shaped .tasks (.instanceOf "SubTask") (.object [("rate", .null)]) := by
    refine .object (by decide) rfl (List.pairwise_singleton _ _) ?_ ?_
    · exact List.forall_mem_singleton.2 (hplain "rate" rfl)
    · exact List.forall_mem_singleton.2 fun _ _ => .null
  have hshaped : Shaped .tasks (.instanceOf "Estimate")
      (.object [("name", .string "t"), ("tasks", .array [.object [("rate", .null)]])]) := by
    refine .object ?_ rfl ?_ ?_ ?_
    · simp only [List.forall_mem_cons]
      exact ⟨by decide, by decide, by simp⟩
    · refine List.pairwise_pair.2 fun r r' hr hr' => ?_
      rw [hname] at hr
      rw [htasks] at hr'
      cases hr
      cases hr'
      decide
    · simp only [List.forall_mem_cons]
      exact ⟨hplain "name" rfl, hplain "tasks" rfl, by simp⟩
    · simp only [List.forall_mem_cons]
      refine ⟨fun r hr => ?_, fun r hr => ?_, by simp⟩
      · rw [hname] at hr
        cases hr
        exact .scalar rfl rfl
      · rw [htasks] at hr
        cases hr
        exact .array rfl (List.forall_mem_singleton.2 hsub)
  have hordered : Layout.Ordered
      [("name", .string "t"), ("tasks", .array [.object [("rate", .null)]])] := by
    rw [Layout.ordered_iff]
    refine ⟨by decide, ?_⟩
    simp [Value.Ordered, Value.ItemsOrdered, Value.FieldsOrdered, Keyed.Sorted]
  obtain ⟨doc, hdoc, hclass⟩ : ∃ doc, ((empty .tasks true).create "Estimate"
      [("name", .string "t"), ("tasks", .array [.object [("rate", .null)]])] "t1").result =
        .ok doc ∧ Document.className doc = "Task" := ⟨_, rfl, rfl⟩
  obtain ⟨hvalues, hself⟩ := matchDocument_created hordered hshaped hdoc
  rw [hclass] at hself
  exact ⟨_, doc, rfl, hdoc, hvalues, hself⟩

end TypedDocs.Store
