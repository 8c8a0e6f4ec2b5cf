import AlAssistant.Text.CharClass

/-!
# Variables and their types

The types a variable can be declared with, and the variables that are known by name.
-/
namespace AlAssistant.Al

/-! ## Data types

The types a variable can be declared with, and the text they take in a declaration. Incomplete
types are written as far as they go: a dictionary without a value type ends after its key type
and stays open.
-/

inductive DataType where
  /-- Written by its name alone, such as `Integer`. -/
  | primitive (name : String)
  /-- `Text` or `Code`, with a length or without. -/
  | sized (name : String) (length : Option Nat)
  | label (text : String)
  | list (elements : List DataType)
  | array (dimensions : List Nat) (elements : List DataType)
  | dictionary (key value : Option DataType)
  /-- An application object, such as `Record Item`. -/
  | object (kind name : String)
deriving Inhabited, Repr

/-- A name in double quotes if it has a blank in it. -/
def quoteName (name : String) : String :=
  if name.toList.any Text.isBlank then "\"" ++ name ++ "\"" else name

namespace DataType

mutual

/-- The type as it is written in a declaration. -/
def render : DataType → String
  | primitive name => name
  | sized name (some length) => name ++ "[" ++ toString length ++ "]"
  | sized name none => name
  | label text => "Label '" ++ text ++ "'"
  | list elements => "List of [" ++ ", ".intercalate (renderAll elements) ++ "]"
  | array dimensions elements =>
    "Array[" ++ ",".intercalate (dimensions.map toString) ++ "] of " ++
      " ".intercalate (renderAll elements)
  | dictionary key value => "Dictionary of [" ++ renderKey key ++ renderValue value
  | object kind name => kind ++ " " ++ quoteName name

def renderAll : List DataType → List String
  | [] => []
  | element :: elements => element.render :: renderAll elements

def renderKey : Option DataType → String
  | none => ""
  | some key => key.render

def renderValue : Option DataType → String
  | none => ""
  | some value => ", " ++ value.render ++ "]"

end

end DataType

/-! ## Well-known variables

Objects of the base application are usually declared under one of two names, a long and a
short one. The table finds the object for a name; a long name anywhere in the table comes
before a short name.
-/

/-- An object and the names its variables go by. -/
structure Variable where
  /-- The name of the object in the application, such as `G/L Account`. -/
  objectName : String
  longName : String
  shortName : String
  /-- The keyword of the kind of object, such as `Record`. -/
  objectType : String
  /-- The name shown to the user. -/
  displayName : String
deriving DecidableEq, Repr

/-- The type a variable of the object is declared with. -/
def Variable.dataType (known : Variable) : DataType :=
  .object known.objectType known.objectName

/-- Known variables, in the order in which they are searched. -/
abbrev VariableTable := List Variable

namespace VariableTable

/-- The variable with a long name, or else with a short name. -/
def find? (table : VariableTable) (name : String) : Option Variable :=
  (List.find? (·.longName == name) table).or (List.find? (·.shortName == name) table)

/-- Whether a name is a long or a short name of the table. -/
def knows (table : VariableTable) (name : String) : Bool :=
  table.any fun known => known.longName == name || known.shortName == name

/-- The declared type for a name, empty when the name is unknown. -/
def typeText (table : VariableTable) (name : String) : String :=
  match table.find? name with
  | some known => known.dataType.render
  | none => ""

/-- The objects of the base application. -/
def builtin : VariableTable :=
  [⟨"Item", "Item", "Item", "Record", "Item"⟩,
   ⟨"Customer", "Customer", "Cust", "Record", "Customer"⟩,
   ⟨"Vendor", "Vendor", "Vend", "Record", "Vendor"⟩,
   ⟨"G/L Account", "GLAccount", "GLAcc", "Record", "G/L Account"⟩,
   ⟨"G/L Entry", "GLEntry", "GLEntry", "Record", "G/L Entry"⟩,
   ⟨"Sales Header", "SalesHeader", "SalesHeader", "Record", "Sales Header"⟩,
   ⟨"Sales Line", "SalesLine", "SalesLine", "Record", "Sales Line"⟩,
   ⟨"Purchase Header", "PurchaseHeader", "PurchHeader", "Record", "Purchase Header"⟩,
   ⟨"Purchase Line", "PurchaseLine", "PurchLine", "Record", "Purchase Line"⟩,
   ⟨"Sales Invoice Header", "SalesInvoiceHeader", "SalesInvHeader",
    "Record", "Sales Invoice Header"⟩,
   ⟨"Sales Invoice Line", "SalesInvoiceLine", "SalesInvLine", "Record", "Sales Invoice Line"⟩,
   ⟨"Item Ledger Entry", "ItemLedgerEntry", "ItemLedgEntry", "Record", "Item Ledger Entry"⟩,
   ⟨"Cust. Ledger Entry", "CustLedgerEntry", "CustLedgEntry", "Record", "Customer Ledger Entry"⟩,
   ⟨"Vendor Ledger Entry", "VendorLedgerEntry", "VendLedgEntry", "Record", "Vendor Ledger Entry"⟩,
   ⟨"Gen. Journal Line", "GenJournalLine", "GenJnlLine", "Record", "General Journal Line"⟩,
   ⟨"Item Journal Line", "ItemJournalLine", "ItemJnlLine", "Record", "Item Journal Line"⟩,
   ⟨"Company Information", "CompanyInformation", "CompanyInfo", "Record", "Company Information"⟩,
   ⟨"General Ledger Setup", "GeneralLedgerSetup", "GLSetup", "Record", "General Ledger Setup"⟩,
   ⟨"Sales & Receivables Setup", "SalesReceivablesSetup", "SalesSetup",
    "Record", "Sales & Receivables Setup"⟩,
   ⟨"Purchases & Payables Setup", "PurchasesPayablesSetup", "PurchSetup",
    "Record", "Purchases & Payables Setup"⟩,
   ⟨"Inventory Setup", "InventorySetup", "InvtSetup", "Record", "Inventory Setup"⟩,
   ⟨"Location", "Location", "Location", "Record", "Location"⟩,
   ⟨"Dimension Value", "DimensionValue", "DimValue", "Record", "Dimension Value"⟩,
   ⟨"Currency", "Currency", "Currency", "Record", "Currency"⟩,
   ⟨"Gen. Jnl.-Post Line", "GenJnlPostLine", "GenJnlPostLine", "Codeunit", "Gen. Jnl.-Post Line"⟩,
   ⟨"Item Jnl.-Post Line", "ItemJnlPostLine", "ItemJnlPostLine",
    "Codeunit", "Item Jnl.-Post Line"⟩,
   ⟨"Sales-Post", "SalesPost", "SalesPost", "Codeunit", "Sales-Post"⟩,
   ⟨"Purch.-Post", "PurchPost", "PurchPost", "Codeunit", "Purch.-Post"⟩,
   ⟨"DimensionManagement", "DimensionManagement", "DimMgt", "Codeunit", "Dimension Management"⟩,
   ⟨"Temp Blob", "TempBlob", "TempBlob", "Codeunit", "Temp Blob"⟩]

end VariableTable

end AlAssistant.Al
