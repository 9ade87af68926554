import Scaffold.Text.Literal
import Scaffold.View.Form

/-!
# The script of a view

The script loads the stores that the form chooses from, keeps what the form shows, sends it to the
service and describes the columns of the table.
-/

namespace Scaffold.View

/-- The imports of a view that other files of its module provide. -/
def viewImports (spec : Spec) : List Import :=
  let n := spec.names
  [Client.interfaceImport n [Client.createType n, Client.updateType n, n.capitalized],
    Client.serviceImport n]
    ++ spec.related.map (Client.storeImport "../stores/")

/-- An import without type definitions. -/
def untyped : String := "// @ts-ignore - No type definitions available"

def importLines (spec : Spec) : List Line :=
  -- the interfaces stand before the component; the service and the stores behind it
  let own := (viewImports spec).map Import.line
  plain (["import \x7b ref, onMounted \x7d from 'vue'",
    "import type \x7b TableColumn \x7d from '../../../../types/datatable'"] ++ own.take 1)
    ++ markup [["import DatatableComponent from '@/components/dashboard/", .componentDir,
      "/DatatableComponent.vue'"]]
    ++ plain (own.drop 1 ++ [untyped, "import Swal from 'sweetalert2'", untyped])
    ++ markup [["import \x7b Modal \x7d from '", .modalModule, "'"]]

/-- The members of an object, indented. -/
def objectBody (blanks : String) (members : List String) : List String :=
  commaSeparated (members.map (blanks ++ ·))

/-- The members of a new form. -/
def defaultMembers (spec : Spec) : List String :=
  spec.defaults.map fun d => d.1 ++ ": " ++ d.2

def payloadMembers (spec : Spec) : List String :=
  spec.payloadKeys.map fun key => key ++ ": " ++ formConst spec.names ++ ".value." ++ key

/-- The members of a form that shows what was received. -/
def loadedMembers (spec : Spec) : List String :=
  spec.payloadKeys.map fun key => key ++ ": data." ++ key

def stateLines (spec : Spec) : List String :=
  let n := spec.names
  ["const datatableRef = ref()",
    "const " ++ n.name ++ "Modal = ref()",
    "let modal: any = null",
    "const " ++ Client.serviceConst n ++ " = " ++ Client.useService n ++ "()"]
    ++ spec.related.map (fun r =>
      "const " ++ Client.storeConst r ++ " = " ++ Client.useStore r ++ "()")
    ++ ["const isEditing = ref(false)",
    "const editingId = ref('')",
    "",
    "const " ++ formConst n ++ " = ref<" ++ Client.createType n ++ " & " ++ Client.updateType n
      ++ ">(\x7b"]
    ++ objectBody "  " (defaultMembers spec)
    ++ ["\x7d)",
    "",
    "const resetForm = () => \x7b",
    "  " ++ formConst n ++ ".value = \x7b"]
    ++ objectBody "    " (defaultMembers spec)
    ++ ["  \x7d",
    "  isEditing.value = false",
    "  editingId.value = ''",
    "\x7d"]

/-- What a view does when it appears, and the functions that open and close its parts. -/
def openingLines (spec : Spec) : List String :=
  ["onMounted(() => \x7b",
    "  modal = new Modal(" ++ spec.names.name ++ "Modal.value)"]
    ++ spec.related.map (fun r => "  " ++ Client.storeConst r ++ "." ++ Client.fetchAll r ++ "()")
    ++ ["\x7d)",
    "",
    "const openCreateModal = () => \x7b",
    "  resetForm()",
    "  modal.show()",
    "\x7d",
    "",
    "const closeModal = () => \x7b",
    "  modal.hide()",
    "\x7d",
    "",
    "const refreshTable = () => \x7b",
    "  datatableRef.value?.forceRedraw()",
    "\x7d"]

/-- What happens when the form is submitted. -/
def submitLines (spec : Spec) : List String :=
  let n := spec.names
  ["const handleSubmit = async () => \x7b",
    "  try \x7b",
    "    if (isEditing.value) \x7b",
    "      const updateData: " ++ Client.updateType n ++ " = \x7b"]
    ++ objectBody "        " (payloadMembers spec)
    ++ ["      \x7d",
    "      await " ++ Client.serviceConst n ++ "." ++ Client.update n
      ++ "(editingId.value, updateData)",
    "    \x7d else \x7b",
    "      const createData: " ++ Client.createType n ++ " = \x7b"]
    ++ objectBody "        " (payloadMembers spec)
    ++ ["      \x7d",
    "      await " ++ Client.serviceConst n ++ "." ++ Client.create n ++ "(createData)",
    "    \x7d",
    "    modal.hide()",
    "    resetForm()",
    "    refreshTable()",
    "  \x7d catch (error) \x7b",
    "    console.error('Error saving " ++ n.name ++ ":', error)",
    "  \x7d",
    "\x7d"]

/-- What happens when a row is edited. -/
def editLines (spec : Spec) : List String :=
  let n := spec.names
  ["const handleEdit = async (id: string) => \x7b",
    "  try \x7b",
    "    const data: " ++ n.capitalized ++ " = await " ++ Client.serviceConst n ++ "."
      ++ Client.getOne n ++ "(id)",
    "    " ++ formConst n ++ ".value = \x7b"]
    ++ objectBody "      " (loadedMembers spec)
    ++ ["    \x7d",
    "    isEditing.value = true",
    "    editingId.value = id",
    "    modal.show()",
    "  \x7d catch (error) \x7b",
    "    console.error('Error fetching " ++ n.name ++ ":', error)",
    "  \x7d",
    "\x7d"]

/-- What happens when a row is deleted. -/
def deleteLines (n : Names) : List String :=
  ["const handleDelete = async (id: string) => \x7b",
    "  try \x7b",
    "    const result = await Swal.fire(\x7b",
    "      title: " ++ Text.literal ("Delete this " ++ n.name ++ "?") ++ ",",
    "      text: 'This action cannot be undone',",
    "      icon: 'warning',",
    "      showCancelButton: true,",
    "      confirmButtonText: 'Delete',",
    "      confirmButtonColor: '#27b30d',",
    "      cancelButtonText: 'Cancel',",
    "      cancelButtonColor: '#dd1111',",
    "      reverseButtons: true",
    "    \x7d)",
    "",
    "    if (result.isConfirmed) \x7b",
    "      await " ++ Client.serviceConst n ++ "." ++ Client.delete n ++ "(id)",
    "      refreshTable()",
    "    \x7d",
    "  \x7d catch (error) \x7b",
    "    console.error('Error deleting " ++ n.name ++ ":', error)",
    "  \x7d",
    "\x7d"]

/-- What happens when a check box of the table is clicked. -/
def toggleLines (n : Names) : List String :=
  ["const handleCheckbox = async (id: string, field: string, isChecked: boolean) => \x7b",
    "  try \x7b",
    "    await " ++ Client.serviceConst n ++ "." ++ Client.updateField ++ "(id, field, isChecked)",
    "    refreshTable()",
    "  \x7d catch (error) \x7b",
    "    console.error('Error updating " ++ n.name ++ ":', error)",
    "  \x7d",
    "\x7d"]

/-- The description of a column, its last line apart. -/
def columnBlock (c : Column) : List String × String :=
  let members := ["data: '" ++ c.key ++ "'", "title: " ++ Text.literal c.title,
    "type: '" ++ c.type ++ "'"]
    ++ (match c.referenceName with
      | some name => if name.isEmpty then [] else ["referenceName: '" ++ name ++ "'"]
      | none => [])
  ("  \x7b" :: objectBody "    " members, "  \x7d")

def columnLines (spec : Spec) : List String :=
  ["const columns = ref<TableColumn[]>(["]
    ++ commaSeparatedBlocks (spec.columns.map columnBlock) ++ ["])"]

/-- The block of the component with the script. -/
def scriptLines (spec : Spec) : List Line :=
  let n := spec.names
  markup [["<script setup lang=\"ts\">"]]
    ++ importLines spec
    ++ plain ([""] ++ [""].intercalate [stateLines spec, openingLines spec, submitLines spec,
      editLines spec, deleteLines n, toggleLines n, columnLines spec])
    ++ markup [["</script>"]]

end Scaffold.View
