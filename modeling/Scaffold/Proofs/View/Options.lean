import Scaffold.Proofs.Declared
import Scaffold.Proofs.Text.Decoding
import Scaffold.Proofs.Text.Tags
import Scaffold.Proofs.View.Tagwise

/-!
# Options in views

The form of a view offers the options of an enumeration as elements with values. `offered?` reads
the values out of the text of a control again, and gives the declared options in their order
(`offered?_controlBlock`). An option may have line feeds, so that its element is more than a line:
what is read is the whole text of the control. `Offers` says what a part of such a text contributes,
whatever follows it.
-/

namespace Scaffold.View

open Text

/-! ### Reading -/

/-- What an element begins with that is an option with a value. -/
def optionStart : List Char :=
  ['<', 'o', 'p', 't', 'i', 'o', 'n', ' ', 'v', 'a', 'l', 'u', 'e', '=', '"']

/-- The values of the options in a text, as they are written. -/
def writtenValues : List Char → List (List Char)
  | [] => []
  | c :: rest =>
    if optionStart <+: c :: rest then
      ((c :: rest).drop optionStart.length).takeWhile (· != '"') :: writtenValues rest
    else writtenValues rest

/-- The values of the options in a text. -/
def offered? (text : String) : Option (List String) :=
  ((writtenValues text.toList).mapM readAttribute).map (·.map String.ofList)

/-- The lines of a control bind it to its key, and offer the options declared for that. -/
def OffersDeclared (d : Document) (key : String) (block : List String) : Prop :=
  (∃ line ∈ block, Binds (d.names.name ++ "Form") key line)
    ∧ ∀ options, d.declaredOptions? key = some options →
      offered? ("\n".intercalate block) = some options

/-- A line gives a key a value, which is the first of the options declared for it. -/
def GivesDeclared (d : Document) (blanks key line : String) : Prop :=
  ∃ value, IsEntry (blanks ++ key ++ ": " ++ value) line
    ∧ ∀ options, d.declaredOptions? key = some options → literal? value = options.head?

/-- The controls of a view offer the declared options, and its form starts with the first of them,
wherever it is made new. -/
structure ViewOffers (d : Document) (content : String) : Prop where
  controls : ∃ classes blocks, List.Forall₂ (OffersDeclared d) d.formKeys blocks
    ∧ HasLines content (["            <form" ++ classes ++ " @submit.prevent=\"handleSubmit\">"]
      ++ [""].intercalate blocks ++ ["            </form>"])
  defaults : ∃ members, List.Forall₂ (GivesDeclared d "  ") d.editedKeys members
    ∧ HasLines content (["const " ++ d.names.name ++ "Form = ref<Create" ++ d.names.capitalized
      ++ "Dto & Update" ++ d.names.capitalized ++ "Dto>(\x7b"] ++ members ++ ["\x7d)"])
  reset : ∃ members, List.Forall₂ (GivesDeclared d "    ") d.editedKeys members
    ∧ HasLines content (["const resetForm = () => \x7b",
      "  " ++ d.names.name ++ "Form.value = \x7b"] ++ members ++ ["  \x7d"])

/-! ### Parts of a text -/

/-- A part of a text has options with these values, whatever follows it. -/
def Offers (values : List String) (s : String) : Prop :=
  ∀ rest, writtenValues (s.toList ++ rest)
    = values.map (fun v => Markup.encodeAttribute v.toList) ++ writtenValues rest

theorem Offers.append {values others : List String} {s t : String} (hs : Offers values s)
    (ht : Offers others t) : Offers (values ++ others) (s ++ t) := by
  unfold Offers
  rw [List.map_append]
  exact Contributes.append hs ht

/-- What is offered by the parts is offered by the text, in their order. -/
theorem Offers.joined {values : List (List String)} {lines : List String}
    (h : List.Forall₂ Offers values lines) (hbreak : Offers [] "\n") :
    Offers values.flatten ("\n".intercalate lines) := by
  unfold Offers
  rw [List.map_flatten]
  exact Contributes.joined (List.forall₂_map_left_iff.mpr h) hbreak

/-- The values are read as they were before they were written. -/
theorem Offers.offered?_eq {values : List String} {s : String} (h : Offers values s) :
    offered? s = some values := by
  have hwritten : writtenValues s.toList
      = values.map fun v => Markup.encodeAttribute v.toList := by
    simpa [writtenValues] using h []
  rw [offered?, hwritten, List.mapM_map]
  simp only [Function.comp_def, readAttribute_encodeAttribute]
  have hread : values.mapM (fun v => some v.toList) = some (values.map String.toList) :=
    List.mapM_pure
  rw [hread, Option.map_some, List.map_map]
  simp [Function.comp_def]

/-- The values are read where an option begins. -/
theorem writtenValues_eq_readAt : writtenValues
    = readAt [optionStart] fun cs => (cs.drop optionStart.length).takeWhile (· != '"') := by
  funext cs
  induction cs with
  | nil => rfl
  | cons c cs ih =>
    rw [writtenValues, readAt, ih]
    simp only [List.mem_singleton, exists_eq_left]

/-- A closed part without an option offers nothing. -/
theorem isTagwise_offers_nil : IsTagwise [optionStart] (Offers []) := by
  refine .of_adds (List.forall_mem_singleton.mpr rfl) (fun h => ?_) Contributes.append
  unfold Offers
  rw [writtenValues_eq_readAt]
  exact contributes_nil_of_adds h

/-- The tag of an option offers its value. -/
theorem offers_tag (value : String) :
    Offers [value] ("<option value=\"" ++ attributeText value ++ "\">") := by
  have htext : "<option value=\"" ++ attributeText value ++ "\">" = String.ofList
      (optionStart ++ (Markup.encodeAttribute value.toList ++ ['"', '>'])) := by
    simp [attributeText, optionStart, ← String.toList_inj]
  have hbehind : Offers [] (String.ofList (optionStart.tail
      ++ (Markup.encodeAttribute value.toList ++ ['"', '>']))) := by
    have hbare := bare_attributeText value
    rw [Bare, attributeText, String.toList_ofList] at hbare
    apply isTagwise_offers_nil.bare
    simp [Bare, optionStart, hbare]
  unfold Offers at hbehind ⊢
  rw [writtenValues_eq_readAt] at hbehind ⊢
  rw [htext]
  refine contributes_of_begins List.mem_cons_self (List.prefix_append _ _) (fun rest => ?_) hbehind
  have hrest : optionStart ++ (Markup.encodeAttribute value.toList ++ ['"', '>']) ++ rest
      = optionStart ++ (Markup.encodeAttribute value.toList ++ '"' :: '>' :: rest) := by
    simp
  show ((optionStart ++ (Markup.encodeAttribute value.toList ++ ['"', '>']) ++ rest).drop
    optionStart.length).takeWhile (· != '"') = _
  rw [hrest, List.drop_left]
  exact takeWhile_ne_append_cons (notMem_encodeAttribute (by decide) _)

/-! ### Controls of enumerations -/

section

variable {t : Theme} (ht : IsBareTheme t)

include ht

theorem offers_nil_labelLine {node : FormNode} (hkey : Bare node.key) :
    Offers [] (t.line (.text "              " :: labelLine node)) := by
  have hkey := isTagwise_offers_nil.bare hkey
  have hlabel := isTagwise_offers_nil.bare (bare_contentText node.label)
  unfold labelLine
  exact isTagwise_offers_nil.text_line ht rfl (by simp [hkey, hlabel])

/-- The line that opens the choice among options. -/
theorem offers_nil_selectLine {node : FormNode} (hkey : Bare node.key) {model : String}
    (hmodel : Bare model) :
    Offers [] (t.line [.text "              ", .text "  <select", .classes .select,
      .text (" id=\"" ++ node.key ++ "\" v-model=\"" ++ model ++ "\"" ++ requiredAttribute node
        ++ ">")]) := by
  have hkey := isTagwise_offers_nil.bare hkey
  have hmodel := isTagwise_offers_nil.bare hmodel
  have hrequired := isTagwise_offers_nil.bare (bare_requiredAttribute node)
  exact isTagwise_offers_nil.text_line ht rfl (by simp [hkey, hmodel, hrequired])

end

theorem offers_optionLine (t : Theme) (option : String) :
    Offers [option] (t.line (.text "              " :: optionLine option)) := by
  have hblanks : Offers [] "                  " := isTagwise_offers_nil.literal rfl
  have hcontent := isTagwise_offers_nil.bare (bare_contentText option)
  have hclosing : Offers [] "</option>" := isTagwise_offers_nil.literal rfl
  have hline : t.line (.text "              " :: optionLine option)
      = "                  " ++ ("<option value=\"" ++ attributeText option ++ "\">")
        ++ contentText option ++ "</option>" := by
    simp [Theme.line, Theme.piece, optionLine, String.join, ← String.toList_inj]
  rw [hline]
  exact ((hblanks.append (offers_tag option)).append hcontent).append hclosing

/-- A choice among options offers them. -/
theorem offers_controlLines {t : Theme} (ht : IsBareTheme t) {model : String} (hmodel : Bare model)
    {node : FormNode} (hkey : Bare node.key) {options : List String}
    (hinput : node.input = .select options) :
    List.Forall₂ Offers ([[], []] ++ options.map ([·]) ++ [[]])
      ((indented "              " (controlLines model node)).map t.line) := by
  have hclosing : Offers [] (t.line [.text "              ", .text "  </select>"]) :=
    isTagwise_offers_nil.text_line ht rfl (by simp)
  have hlines : (indented "              " (controlLines model node)).map t.line
      = [t.line (.text "              " :: labelLine node),
        t.line [.text "              ", .text "  <select", .classes .select,
          .text (" id=\"" ++ node.key ++ "\" v-model=\"" ++ model ++ "\"" ++ requiredAttribute node
            ++ ">")]]
        ++ options.map (fun option => t.line (.text "              " :: optionLine option))
        ++ [t.line [.text "              ", .text "  </select>"]] := by
    rw [controlLines, hinput]
    simp [selectLines, indented, plain]
  rw [hlines]
  refine List.rel_append (List.rel_append (.cons (offers_nil_labelLine ht hkey)
    (.cons (offers_nil_selectLine ht hkey hmodel) .nil)) ?_) (.cons hclosing .nil)
  rw [List.forall₂_map_left_iff, List.forall₂_map_right_iff, List.forall₂_same]
  exact fun option _ => offers_optionLine t option

/-- The control of an enumeration offers its options. -/
theorem offered?_controlBlock {t : Theme} (ht : IsBareTheme t) {n : Names} (hn : Bare n.name)
    {field : FieldSpec} (hkey : Bare field.key) {options : Options}
    (htype : field.type = .enum options) :
    offered? ("\n".intercalate (controlBlock t n (field.enumMapping options)))
      = some options.toList := by
  have hmodel : Bare (formConst n ++ "." ++ field.key) :=
    (Bare.append (hn.append (by decide)) (by decide)).append hkey
  have hinput :
      (FormNode.ofMapping (field.enumMapping options)).input = .select options.toList := by
    have hcontrol : (FormNode.ofMapping (field.enumMapping options)).control = .select := by
      show field.control = .select
      rw [FieldSpec.control, htype]
    rw [FormNode.input, hcontrol]
    rfl
  have hopening : Offers [] (t.line [.text "              ", .text "<div", .classes .field,
      .text ">"]) := isTagwise_offers_nil.text_line ht rfl (by simp)
  have hclosing : Offers [] (t.line [.text "              ", .text "</div>"]) :=
    isTagwise_offers_nil.text_line ht rfl (by simp)
  have hblock : List.Forall₂ Offers ([[]] ++ ([[], []] ++ options.toList.map ([·]) ++ [[]]) ++ [[]])
      (controlBlock t n (field.enumMapping options)) := by
    rw [controlBlock, formNodeLines, indented, List.map_append, List.map_append, List.map_append,
      List.map_append]
    exact List.rel_append (List.rel_append (.cons hopening .nil)
      (offers_controlLines ht hmodel hkey hinput)) (.cons hclosing .nil)
  have hvalues : ([[]] ++ ([[], []] ++ options.toList.map ([·]) ++ [[]]) ++ [[]]).flatten
      = options.toList := by
    simp [← List.flatMap_def]
  exact (hvalues ▸ Offers.joined hblock (isTagwise_offers_nil.literal rfl)).offered?_eq

/-! ### The view -/

section

variable {d : Document} {fields : List FieldSpec}
  (hfields : List.Forall₂ (Entity.Reads d) d.schema.entries fields)

include hfields

theorem offersDeclared_controlBlock (hd : d.WellFormed)
    (hname : Identifier.isExactEntityName d.name = true) {t : Theme} (ht : IsBareTheme t)
    {m : FieldMapping} (hm : m ∈ (Entity.ofFields d fields).mappings) :
    OffersDeclared d m.key (controlBlock t d.names m) := by
  refine ⟨exists_binds_of_controlBlock t d.names m, fun options hdeclared => ?_⟩
  have hkey := bare_of_isIdentifier (Entity.isIdentifier_key hd hfields hm)
  obtain ⟨field, o, htype, rfl, rfl⟩ := Entity.exists_enumMapping hfields hm hdeclared
  exact offered?_controlBlock ht
    (bare_of_isIdentifier (Document.areIdentifiers_names hd hname).name) hkey htype

/-- The form starts with the first of the declared options. -/
theorem givesDeclared_defaults (blanks : String) :
    List.Forall₂ (GivesDeclared d blanks) d.editedKeys
      (objectBody blanks (defaultMembers (.ofEntity (Entity.ofFields d fields)))) := by
  rw [objectBody, map_defaultMembers, ← Entity.map_key_payload hfields]
  refine forall₂_map_key_of (forall₂_commaSeparated _) fun m hm line hline =>
    ⟨m.defaultLiteral, ?_, ?_⟩
  · simpa only [String.append_assoc] using hline
  · intro options hdeclared
    obtain ⟨field, o, -, rfl, rfl⟩ :=
      Entity.exists_enumMapping hfields (List.mem_filter.mp hm).1 hdeclared
    exact literal?_literal o.first

/-- Views offer the declared options. -/
theorem viewOffers (hd : d.WellFormed) (hname : Identifier.isExactEntityName d.name = true)
    {t : Theme} (ht : IsBareTheme t) :
    ViewOffers d (artifact t (.ofEntity (Entity.ofFields d fields))).content where
  controls := by
    refine ⟨t.classAttribute .form, _, ?_, map_line_formLines t _ ▸ hasLines_form t _⟩
    rw [← Entity.map_key_form hfields hd]
    exact forall₂_map_key fun m hm => offersDeclared_controlBlock hfields hd hname ht
      ((Entity.presented_eq hfields hd).1 m (List.mem_filter.mp hm).1)
  defaults := ⟨_, givesDeclared_defaults hfields "  ", hasLines_defaults t _⟩
  reset := ⟨_, givesDeclared_defaults hfields "    ", hasLines_reset t _⟩

end

end Scaffold.View
