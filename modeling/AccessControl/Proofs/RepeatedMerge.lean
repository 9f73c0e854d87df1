import AccessControl.Proofs.LayerPrecedence

/-!
# Merging a document again

There are two ways to lay a document over another, of which one also records which layer set what. Both make the same
document, and a document that has been laid over another makes no difference when it is laid over the result. The main
statement is `Toml.merges_agree_and_settle`.

## Implementation notes

That nothing changes is read off the layers: of two layers with the same document the lower one governs no path
(`Toml.governing_again`), and a tidy document is determined by its layers. So the document need not be laid over itself
at once; other layers may stand between.
-/
namespace AccessControl.Toml

section Again

variable {base overlay t t' d : Toml} {before after : List Toml}

/-- Below a layer with the same document a layer governs nothing. -/
theorem governing_again (path : List String) (d : Toml) (before after : List Toml) :
    governing path (d :: (before ++ d :: after)) = governing path (d :: (before ++ after)) := by
  rw [governing, governing]
  split
  · rfl
  · next hopen =>
      cases hd : d.at? path with
      | some v => rfl
      | none =>
          have hbelow : governing path (d :: after) = governing path after := by simp [governing, hopen, hd]
          -- The layers between look at the rest only if they do not govern themselves.
          have hbetween : governing path (before ++ d :: after) = governing path (before ++ after) := by
            induction before with
            | nil => exact hbelow
            | cons layer before ih => rw [List.cons_append, List.cons_append, governing, governing, ih]
          rw [hbetween]

/-- What a document makes of layers does not depend on whether it is one of them already. -/
theorem Obeys.merge_again (h : t.Obeys (before ++ d :: after)) (h' : t'.Obeys (before ++ after)) (ht : t.Tidy)
    (ht' : t'.Tidy) (hd : d.Tidy) : Toml.merge t d = Toml.merge t' d := by
  have hobeys : (Toml.merge t d).Obeys (d :: (before ++ after)) := by
    intro path
    rw [h.merge hd path, governing_again]
  exact hobeys.unique (h'.merge hd) (hd.merge ht) (hd.merge ht')

/-- A document that is laid over the one that it has just made changes nothing. -/
theorem merge_merge_self (hbase : base.Tidy) (hoverlay : overlay.Tidy) :
    merge (merge base overlay) overlay = merge base overlay := by
  have hlaid : (merge base overlay).Obeys ([] ++ overlay :: [base]) := (obeys_single base).merge hoverlay
  exact hlaid.merge_again (obeys_single base) (hoverlay.merge hbase) hbase hoverlay

end Again

/-- Whether layers are recorded or not, the same document is made, whatever is recorded already. Laying a document over
the result once more leaves it as it is, in either way. -/
theorem merges_agree_and_settle (base overlay : Toml) :
    (∀ layer path sources, (mergeRecording layer path base overlay sources).1 = merge base overlay) ∧
      (base.Tidy → overlay.Tidy →
        merge (merge base overlay) overlay = merge base overlay ∧
          ∀ layer path sources,
            (mergeRecording layer path (merge base overlay) overlay sources).1 = merge base overlay) := by
  refine ⟨fun layer path sources => mergeRecording_fst layer path base overlay sources, fun hbase hoverlay => ?_⟩
  have hsettled := merge_merge_self hbase hoverlay
  refine ⟨hsettled, fun layer path sources => ?_⟩
  rw [mergeRecording_fst, hsettled]

/-- A table over a table, and a table over a text. -/
theorem merges_agree_and_settle_of_mixed_kinds :
    let base := table [("engine", table [("limit", integer 1)]), ("logging", string "off")]
    let overlay := table [("engine", table [("strict", bool true)]), ("logging", table [("level", string "warn")])]
    let merged := table [("engine", table [("limit", integer 1), ("strict", bool true)]),
      ("logging", table [("level", string "warn")])]
    base.Tidy ∧ overlay.Tidy ∧ merge base overlay = merged ∧ merge merged overlay = merged ∧
      (mergeRecording .user "" merged overlay ∅).1 = merged := by
  intro base overlay merged
  have hkeys : "engine" < "logging" := by decide
  have hsections {v w : Toml} (hv : v.Tidy) (hw : w.Tidy) : Tidy (table [("engine", v), ("logging", w)]) :=
    .table (List.pairwise_pair.mpr hkeys) (List.forall_mem_cons.mpr ⟨hv, List.forall_mem_singleton.mpr hw⟩)
  have hsection {key : String} {v : Toml} (hv : v.isTable = false) : Tidy (table [(key, v)]) :=
    tidy_of_leaves (List.pairwise_singleton _ _) (List.forall_mem_singleton.mpr hv)
  have hbase : base.Tidy := hsections (hsection rfl) (.leaf rfl)
  have hoverlay : overlay.Tidy := hsections (hsection rfl) (hsection rfl)
  have hmerged : merge base overlay = merged := by rfl
  obtain ⟨-, hsettles⟩ := merges_agree_and_settle base overlay
  rw [hmerged] at hsettles
  obtain ⟨hplain, hrecorded⟩ := hsettles hbase hoverlay
  exact ⟨hbase, hoverlay, hmerged, hplain, hrecorded .user "" ∅⟩

end AccessControl.Toml
