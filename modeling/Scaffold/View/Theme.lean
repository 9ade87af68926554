import Scaffold.FieldType
import Scaffold.Text.Case

/-!
# Themes

A view names the parts of its markup by class tokens and leaves their classes to a theme. A theme
gives classes to every token, none being allowed, and the two module paths in which the user
interface frameworks differ. `ThemeTable.theme` makes a theme of a table if it lacks no token.
-/

namespace Scaffold

/-- The user interface frameworks. -/
inductive ThemeName where
  | bootstrap
  | fomantic
deriving Repr, DecidableEq, Inhabited

def ThemeName.word : ThemeName → String
  | .bootstrap => "bootstrap"
  | .fomantic => "fomantic"

/-- The frameworks with their words, in the order in which views are rendered. -/
def ThemeName.words : List (String × ThemeName) :=
  [("bootstrap", .bootstrap), ("fomantic", .fomantic)]

/-- The parts of the markup that have classes. -/
inductive ClassToken where
  | headerRow
  | headerTitle
  | headerActions
  | subtitle
  | iconList
  | iconPlus
  | iconCheck
  | buttonPrimary
  | buttonSecondary
  | buttonClose
  | modal
  | modalDialog
  | modalContent
  | modalHeader
  | modalTitle
  | modalBody
  | modalFooter
  | form
  | field
  | label
  | input
  | textarea
  | select
  | checkbox
  | checkboxInput
  | checkboxLabel
  | helpText
  | divider
deriving Repr, DecidableEq, Inhabited

namespace ClassToken

def name : ClassToken → String
  | headerRow => "header_row"
  | headerTitle => "header_title"
  | headerActions => "header_actions"
  | subtitle => "subtitle"
  | iconList => "icon_list"
  | iconPlus => "icon_plus"
  | iconCheck => "icon_check"
  | buttonPrimary => "button_primary"
  | buttonSecondary => "button_secondary"
  | buttonClose => "button_close"
  | modal => "modal"
  | modalDialog => "modal_dialog"
  | modalContent => "modal_content"
  | modalHeader => "modal_header"
  | modalTitle => "modal_title"
  | modalBody => "modal_body"
  | modalFooter => "modal_footer"
  | form => "form"
  | field => "field"
  | label => "label"
  | input => "input"
  | textarea => "textarea"
  | select => "select"
  | checkbox => "checkbox"
  | checkboxInput => "checkbox_input"
  | checkboxLabel => "checkbox_label"
  | helpText => "help_text"
  | divider => "divider"

def all : List ClassToken :=
  [headerRow, headerTitle, headerActions, subtitle, iconList, iconPlus, iconCheck, buttonPrimary,
    buttonSecondary, buttonClose, modal, modalDialog, modalContent, modalHeader, modalTitle,
    modalBody, modalFooter, form, field, label, input, textarea, select, checkbox, checkboxInput,
    checkboxLabel, helpText, divider]

theorem mem_all (t : ClassToken) : t ∈ all := by
  cases t <;> decide

end ClassToken

/-- What a framework adds to a view. -/
structure Theme where
  name : ThemeName
  /-- The classes of each token, separated by blanks. -/
  classes : ClassToken → String
  /-- The directory of the framework's components. -/
  componentDir : String
  /-- The module that modal windows come from. -/
  modalModule : String

/-- A class table with what else a theme needs, under the name of its renderer. -/
structure ThemeTable where
  renderer : String
  name : ThemeName
  classes : List (String × String)
  componentDir : String := ""
  modalModule : String := ""
deriving Repr, DecidableEq, Inhabited

/-- The class table of a renderer lacks tokens. -/
structure ThemeFault where
  renderer : String
  lacking : List ClassToken
deriving Repr, DecidableEq

/-- The message about a class table that lacks tokens. -/
def ThemeFault.message (f : ThemeFault) : String :=
  f.renderer ++ " class table lacks tokens: "
    ++ DescriptorFault.quotedList (f.lacking.map ClassToken.name)

namespace ThemeTable

/-- The classes that a table gives to a token. -/
def classes? (t : ThemeTable) (token : ClassToken) : Option String :=
  wordMeaning? t.classes token.name

def lacking (t : ThemeTable) : List ClassToken :=
  ClassToken.all.filter fun token => (t.classes? token).isNone

/-- The theme of a table. A token that the table lacks is left bare. -/
def themeOf (t : ThemeTable) : Theme where
  name := t.name
  classes token := (t.classes? token).getD ""
  componentDir := t.componentDir
  modalModule := t.modalModule

/-- The theme of a table, unless the table lacks tokens. -/
def theme (t : ThemeTable) : Except ThemeFault Theme :=
  match t.lacking with
  | [] => .ok t.themeOf
  | tokens => .error ⟨t.renderer, tokens⟩

def bootstrap : ThemeTable where
  renderer := "BootstrapRenderer"
  name := .bootstrap
  componentDir := "bootstrap"
  modalModule := "bootstrap"
  classes := [("header_row", "row mb-4"), ("header_title", "col-md-6"),
    ("header_actions", "col-md-6 text-end"), ("subtitle", "text-muted d-block"),
    ("icon_list", "bi bi-list"), ("icon_plus", "bi bi-plus"), ("icon_check", "bi bi-check"),
    ("button_primary", "btn btn-primary"), ("button_secondary", "btn btn-secondary"),
    ("button_close", "btn-close"), ("modal", "modal fade"),
    ("modal_dialog", "modal-dialog modal-lg"), ("modal_content", "modal-content"),
    ("modal_header", "modal-header"), ("modal_title", "modal-title"), ("modal_body", "modal-body"),
    ("modal_footer", "modal-footer"), ("form", ""), ("field", "mb-3"), ("label", "form-label"),
    ("input", "form-control"), ("textarea", "form-control"), ("select", "form-select"),
    ("checkbox", "form-check"), ("checkbox_input", "form-check-input"),
    ("checkbox_label", "form-check-label"), ("help_text", "text-muted"), ("divider", "my-4")]

def fomantic : ThemeTable where
  renderer := "FomanticRenderer"
  name := .fomantic
  componentDir := "fomantic"
  modalModule := "fomantic"
  classes := [("header_row", "ui two column grid"), ("header_title", "column"),
    ("header_actions", "right aligned column"), ("subtitle", "sub header"),
    ("icon_list", "list icon"), ("icon_plus", "plus icon"), ("icon_check", "check icon"),
    ("button_primary", "ui primary button"), ("button_secondary", "ui button"),
    ("button_close", "close icon"), ("modal", "ui modal"), ("modal_dialog", "content"),
    ("modal_content", "description"), ("modal_header", "header"), ("modal_title", "ui header"),
    ("modal_body", "content"), ("modal_footer", "actions"), ("form", "ui form"),
    ("field", "field"), ("label", "ui label"), ("input", "ui input"), ("textarea", "ui input"),
    ("select", "ui dropdown"), ("checkbox", "ui checkbox"), ("checkbox_input", ""),
    ("checkbox_label", ""), ("help_text", "ui small text"), ("divider", "ui divider")]

/-- The tables of a module, in the order of their views. -/
def builtIn : List ThemeTable := [bootstrap, fomantic]

end ThemeTable

namespace Theme

/-- The attribute with the classes of a token, none when a theme leaves the token bare. -/
def classAttribute (t : Theme) (token : ClassToken) : String :=
  let classes := t.classes token
  if classes.isEmpty then "" else " class=\"" ++ classes ++ "\""

def bootstrap : Theme := ThemeTable.bootstrap.themeOf

def fomantic : Theme := ThemeTable.fomantic.themeOf

/-- The themes of a module, in the order of their views. -/
def builtIn : List Theme := [bootstrap, fomantic]

end Theme

end Scaffold
