import Scaffold.Client.Layout
import Scaffold.Text.Markup
import Scaffold.View.Piece
import Scaffold.View.Spec

/-!
# The markup of a view

The page header with its button, the modal window with the form, and the table. Labels and options
are element content; placeholders and the values of options are attribute values.
-/

namespace Scaffold.View

open ClassToken Text

/-- The attribute that asks for a value. -/
def requiredAttribute (node : FormNode) : String :=
  if node.required then " required" else ""

def labelLine (node : FormNode) : Line :=
  ["  <label", label, " for=\"" ++ node.key ++ "\">" ++ contentText node.label ++ "</label>"]

/-- The option for a choice of an enumeration. -/
def optionLine (option : String) : Line :=
  ["    <option value=\"" ++ attributeText option ++ "\">" ++ contentText option ++ "</option>"]

def entityOptions (n : Names) : Line :=
  ["    <option v-for=\"" ++ n.name ++ " in " ++ Client.storeConst n ++ "." ++ n.plural
    ++ "\" :key=\"" ++ n.name ++ "._id\" :value=\"" ++ n.name ++ "\">\x7b\x7b " ++ n.name
    ++ ".name \x7d\x7d</option>"]

/-- A line of text or a number. `type` is the kind of the input, `modifier` how what is entered is
bound. -/
def inputLine (type modifier model : String) (node : FormNode) : Line :=
  ["  <input type=\"" ++ type ++ "\"", input, " id=\"" ++ node.key ++ "\" v-model" ++ modifier
    ++ "=\"" ++ model ++ "\" placeholder=\"" ++ attributeText node.placeholder ++ "\""
    ++ requiredAttribute node ++ ">"]

/-- The choice among the entities of a store. -/
def referenceLines (model : String) (node : FormNode) (related : Names) (multiple : Bool) :
    List Line :=
  markup [["  <select", select, " id=\"" ++ node.key ++ "\" v-model=\"" ++ model ++ "\""
    ++ (if multiple then " multiple" else "") ++ requiredAttribute node ++ ">"]]
    ++ (if multiple then []
      else plain ["    <option :value=\"undefined\">Select " ++ contentText node.label
        ++ "</option>"])
    ++ [entityOptions related, ["  </select>"]]
    ++ (if multiple then
      markup [["  <small", helpText, ">Hold Ctrl/Cmd to select multiple items</small>"]] else [])

/-- The choice among the options of an enumeration. -/
def selectLines (model : String) (node : FormNode) (options : List String) : List Line :=
  markup [["  <select", select, " id=\"" ++ node.key ++ "\" v-model=\"" ++ model ++ "\""
    ++ requiredAttribute node ++ ">"]]
    ++ options.map optionLine ++ plain ["  </select>"]

def textareaLine (model : String) (node : FormNode) : Line :=
  ["  <textarea", textarea, " id=\"" ++ node.key ++ "\" v-model=\"" ++ model ++ "\" placeholder=\""
    ++ attributeText node.placeholder ++ "\"" ++ requiredAttribute node ++ "></textarea>"]

/-- A check box with its label. -/
def checkboxLines (model : String) (node : FormNode) : List Line :=
  [["  <div", checkbox, ">"],
    ["    <input type=\"checkbox\"", checkboxInput, " v-model=\"" ++ model ++ "\" id=\"" ++ node.key
      ++ "\">"],
    ["    <label", checkboxLabel, " for=\"" ++ node.key ++ "\">" ++ contentText node.label
      ++ "</label>"],
    ["  </div>"]]

/-- What stands inside the field of a form control. -/
def controlLines (model : String) (node : FormNode) : List Line :=
  match node.input with
  | .checkbox => checkboxLines model node
  | .reference related multiple => labelLine node :: referenceLines model node related multiple
  | .select options => labelLine node :: selectLines model node options
  | .textarea => [labelLine node, textareaLine model node]
  | .number => [labelLine node, inputLine "number" ".number" model node]
  | .text => [labelLine node, inputLine "text" "" model node]

/-- The constant that holds what the form shows. -/
def formConst (n : Names) : String := n.name ++ "Form"

def formNodeLines (n : Names) (node : FormNode) : List Line :=
  markup [["<div", field, ">"]] ++ controlLines (formConst n ++ "." ++ node.key) node
    ++ plain ["</div>"]

/-- The lines of the form, with a blank line between controls. -/
def formLines (spec : Spec) : List Line :=
  [[.text ""]].intercalate
    (spec.form.map fun node => indented "              " (formNodeLines spec.names node))

def headerLines (n : Names) : List Line :=
  [["    <!-- Page header -->"],
    ["    <div", headerRow, ">"],
    ["      <div", headerTitle, ">"],
    ["        <h2>"],
    ["          <i", iconList, "></i>"],
    ["          " ++ n.capitalizedPlural],
    ["          <small", subtitle, ">Manage your " ++ n.plural ++ "</small>"],
    ["        </h2>"],
    ["      </div>"],
    [""],
    ["      <div", headerActions, ">"],
    ["        <button type=\"button\"", buttonPrimary, " @click=\"openCreateModal\">"],
    ["          <i", iconPlus, "></i>"],
    ["          Create " ++ n.capitalized],
    ["        </button>"],
    ["      </div>"],
    ["    </div>"]]

def modalLines (spec : Spec) : List Line :=
  let n := spec.names
  markup [["    <!-- " ++ n.capitalized ++ " modal -->"],
    ["    <div", modal, " ref=\"" ++ n.name ++ "Modal\" tabindex=\"-1\">"],
    ["      <div", modalDialog, ">"],
    ["        <div", modalContent, ">"],
    ["          <div", modalHeader, ">"],
    ["            <h5", modalTitle, ">\x7b\x7b isEditing ? 'Edit " ++ n.capitalized
      ++ "' : 'Create " ++ n.capitalized ++ "' \x7d\x7d</h5>"],
    ["            <button type=\"button\"", buttonClose,
      " aria-label=\"Close\" @click=\"closeModal\"></button>"],
    ["          </div>"],
    ["          <div", modalBody, ">"],
    ["            <form", form, " @submit.prevent=\"handleSubmit\">"]]
    ++ formLines spec
    ++ markup [["            </form>"],
    ["          </div>"],
    ["          <div", modalFooter, ">"],
    ["            <button type=\"button\"", buttonSecondary,
      " @click=\"closeModal\">Cancel</button>"],
    ["            <button type=\"button\"", buttonPrimary, " @click=\"handleSubmit\">"],
    ["              \x7b\x7b isEditing ? 'Update' : 'Create' \x7d\x7d"],
    ["              <i", iconCheck, "></i>"],
    ["            </button>"],
    ["          </div>"],
    ["        </div>"],
    ["      </div>"],
    ["    </div>"]]

def tableLines (n : Names) : List Line :=
  [["    <!-- " ++ n.capitalizedPlural ++ " table -->"],
    ["    <hr", divider, ">"],
    ["    <datatable-component ref=\"datatableRef\" v-if=\"columns.length\""],
    ["      uri=\"/" ++ n.path ++ "/datatable\" :columns=\"columns\""],
    ["      @edit=\"handleEdit\" @delete=\"handleDelete\" @checkbox=\"handleCheckbox\" />"]]

/-- The block of the component with the markup. -/
def templateLines (spec : Spec) : List Line :=
  markup [["<template>"], ["  <div class=\"" ++ spec.names.name ++ "-list\">"]]
    ++ headerLines spec.names ++ plain [""] ++ modalLines spec ++ plain [""]
    ++ tableLines spec.names
    ++ plain ["  </div>", "</template>"]

end Scaffold.View
