import Scaffold.Proofs.View.Tagwise

/-!
# What holds of the markup of a view

The markup is made of literals, names, escaped texts and what a theme adds. So a property about some
tags that are watched holds of all its lines, if it holds of the elements that list the entities of
a store (`IsTagwise.templateBody`). Nothing in the markup ends a block, for one
(`quiet_of_mem_templateBody`).
-/

namespace Scaffold.View

open Text

/-- The beginning of an element that lists the entities of a store as options. -/
def choiceOpening : List Char :=
  ['<', 'o', 'p', 't', 'i', 'o', 'n', ' ', 'v', '-', 'f', 'o', 'r', '=', '"']

/-- The tags that are watched in the literals of the markup. -/
def watchedTags : List (List Char) := choiceOpening :: blockEnds

theorem head?_of_mem_watchedTags : ∀ tag ∈ watchedTags, tag.head? = some '<' :=
  List.forall_mem_cons.mpr ⟨rfl, head?_of_mem_blockEnds⟩

/-- The forms of a name are without tags. -/
structure BareNames (n : Names) : Prop where
  name : Bare n.name
  capitalized : Bare n.capitalized
  plural : Bare n.plural
  capitalizedPlural : Bare n.capitalizedPlural
  path : Bare n.path

/-- A control refers to a field and to an entity without tags. -/
structure BareNode (node : FormNode) : Prop where
  key : Bare node.key
  related : ∀ r ∈ node.input.related?, BareNames r

/-- What the markup of a view shows refers to names without tags. -/
structure BareForm (spec : Spec) : Prop where
  names : BareNames spec.names
  form : ∀ node ∈ spec.form, BareNode node

/-- The block with the markup, without the line that closes it. -/
def templateBody (spec : Spec) : List Line :=
  markup [["<template>"], ["  <div class=\"" ++ spec.names.name ++ "-list\">"]]
    ++ headerLines spec.names ++ plain [""] ++ modalLines spec ++ plain [""]
    ++ tableLines spec.names ++ plain ["  </div>"]

theorem templateLines_eq (spec : Spec) :
    templateLines spec = templateBody spec ++ plain ["</template>"] := by
  simp [templateLines, templateBody, plain]

namespace IsTagwise

variable {holds : String → Prop} (h : IsTagwise watchedTags holds)

include h

theorem headerLines {n : Names} (hn : BareNames n) : LinesHave holds (headerLines n) := by
  have hcap := h.bare hn.capitalized
  have hplural := h.bare hn.plural
  have hplurals := h.bare hn.capitalizedPlural
  unfold View.headerLines
  exact h.linesHave rfl (by simp [hcap, hplural, hplurals])

theorem tableLines {n : Names} (hn : BareNames n) : LinesHave holds (tableLines n) := by
  have hplurals := h.bare hn.capitalizedPlural
  have hpath := h.bare hn.path
  unfold View.tableLines
  exact h.linesHave rfl (by simp [hplurals, hpath])

section

variable {model : String} {node : FormNode} (hmodel : Bare model) (hnode : BareNode node)

include hmodel hnode

theorem selectLines (options : List String) :
    LinesHave holds (selectLines model node options) := by
  have hmodel := h.bare hmodel
  have hkey := h.bare hnode.key
  have hrequired := h.bare (bare_requiredAttribute node)
  have hoption : LinesHave holds (options.map optionLine) := by
    refine List.forall_mem_map.mpr fun option _ => ?_
    have hvalue := h.bare (bare_attributeText option)
    have hshown := h.bare (bare_contentText option)
    unfold optionLine
    exact List.forall_mem_singleton.mp (h.linesHave rfl (by simp [hvalue, hshown]))
  unfold View.selectLines
  exact .append (.append (h.linesHave rfl (by simp [hmodel, hkey, hrequired])) hoption)
    (h.linesHave rfl (by simp))

theorem referenceLines {related : Names} (hoptions : LinesHave holds [entityOptions related])
    (multiple : Bool) : LinesHave holds (referenceLines model node related multiple) := by
  have hmodel := h.bare hmodel
  have hkey := h.bare hnode.key
  have hlabel := h.bare (bare_contentText node.label)
  have hrequired := h.bare (bare_requiredAttribute node)
  have hclosing : LinesHave holds [["  </select>"]] := h.linesHave rfl (by simp)
  unfold View.referenceLines
  cases multiple
  all_goals
    simp only [if_true, if_false, Bool.false_eq_true]
    refine .append (.append (.append ?_ ?_) (hoptions.append hclosing)) ?_
    all_goals exact h.linesHave rfl (by simp [hmodel, hkey, hlabel, hrequired])

theorem controlLines (hoptions : ∀ r ∈ node.input.related?, LinesHave holds [entityOptions r]) :
    LinesHave holds (controlLines model node) := by
  have hkey := h.bare hnode.key
  have hbinding := h.bare hmodel
  have hlabel := h.bare (bare_contentText node.label)
  have hplaceholder := h.bare (bare_attributeText node.placeholder)
  have hrequired := h.bare (bare_requiredAttribute node)
  have hlabelLine : LinesHave holds [labelLine node] := by
    unfold labelLine
    exact h.linesHave rfl (by simp [hkey, hlabel])
  unfold View.controlLines checkboxLines textareaLine inputLine
  cases hinput : node.input with
  | checkbox => exact h.linesHave rfl (by simp [hkey, hbinding, hlabel])
  | select options => exact hlabelLine.append (h.selectLines hmodel hnode options)
  | reference related multiple =>
    have hr : LinesHave holds [entityOptions related] := hoptions related (by rw [hinput]; rfl)
    exact hlabelLine.append (h.referenceLines hmodel hnode hr multiple)
  | _ =>
    exact hlabelLine.append (h.linesHave rfl (by simp [hkey, hbinding, hplaceholder, hrequired]))

end

section

variable {spec : Spec} (hform : BareForm spec)
  (hoptions : ∀ node ∈ spec.form, ∀ r ∈ node.input.related?, LinesHave holds [entityOptions r])

include hform hoptions

theorem formLines : LinesHave holds (formLines spec) := by
  have hname := hform.names.name
  refine LinesHave.intercalate (h.linesHave rfl (by simp))
    (List.forall_mem_map.mpr fun node hnode => ?_)
  have hbare := hform.form node hnode
  have hmodel : Bare (formConst spec.names ++ "." ++ node.key) := by
    unfold formConst
    exact ((hname.append (by decide)).append (by decide)).append hbare.key
  refine LinesHave.indented
    (.append (.append ?_ (h.controlLines hmodel hbare (hoptions node hnode))) ?_) (h.literal rfl)
  all_goals exact h.linesHave rfl (by simp)

theorem modalLines : LinesHave holds (modalLines spec) := by
  have hname := h.bare hform.names.name
  have hcap := h.bare hform.names.capitalized
  refine .append (.append ?_ (h.formLines hform hoptions)) ?_
  all_goals exact h.linesHave rfl (by simp [hname, hcap])

/-- The lines of the markup have the property if the elements have it that list entities. -/
theorem templateBody : LinesHave holds (templateBody spec) := by
  have hname := h.bare hform.names.name
  have hblank : LinesHave holds (plain [""]) := h.linesHave rfl (by simp)
  have hopening : LinesHave holds
      [["<template>"], ["  <div class=\"" ++ spec.names.name ++ "-list\">"]] :=
    h.linesHave rfl (by simp [hname])
  have hclosing : LinesHave holds (plain ["  </div>"]) := h.linesHave rfl (by simp)
  exact (((((hopening.append (h.headerLines hform.names)).append hblank).append
    (h.modalLines hform hoptions)).append hblank).append (h.tableLines hform.names)).append hclosing

end

end IsTagwise

/-! ### Markup that ends no block -/

theorem isTagwise_quiet_markup : IsTagwise watchedTags Quiet :=
  .of_adds head?_of_mem_watchedTags (fun h tag htag => h tag (.tail _ htag)) Quiet.append

theorem quiet_entityOptions {r : Names} (hr : BareNames r) :
    LinesHave Quiet [entityOptions r] := by
  have hname := hr.name.quiet
  have hplural := hr.plural.quiet
  unfold entityOptions Client.storeConst
  exact isTagwise_quiet.linesHave rfl (by simp [hname, hplural])

/-- Nothing in the markup ends a block, whatever its labels, placeholders and options are. -/
theorem quiet_of_mem_templateBody {spec : Spec} (h : BareForm spec) {t : Theme}
    (ht : IsBareTheme t) :
    ∀ line ∈ (templateBody spec).map t.line, Quiet line :=
  isTagwise_quiet_markup.lines_of_theme ht <|
    isTagwise_quiet_markup.templateBody h fun node hnode r hr =>
      quiet_entityOptions ((h.form node hnode).related r hr)

end Scaffold.View
