import RestorePlugins.Plugin.Contract
import RestorePlugins.Text.Table

namespace RestorePlugins.CommandLine

/-!
# Tables that the client prints

* `listTable` — the plugins of a host.
* `selectorTable`, `executeTable`, `volumeTable` — an answer under the name of what it is about.
-/

/-- What stands for nothing. -/
def noneText : String := "None"

/-- Texts between commas. -/
def listed (texts : List String) : String :=
  if texts.isEmpty then noneText else ", ".intercalate texts

/-- The plugins of a host. -/
def listTable (plugins : List PluginIdentifier) : Table where
  header := ["Kind", "Name", "Command"]
  rows := plugins.map fun p => [p.kind.name, p.name, p.command]

/-- The resources that an action applies to. -/
def selectorTable (title : String) (selector : ResourceSelector) : Table where
  header := [title]
  rows :=
    if selector.isEmpty then [["Applies To:", "All resources"]]
    else [
      ["Included Namespaces:", listed selector.includedNamespaces],
      ["Excluded Namespaces:", listed selector.excludedNamespaces],
      ["Included Resources:", listed selector.includedResources],
      ["Excluded Resources:", listed selector.excludedResources],
      ["Label Selector:", if selector.selector = "" then noneText else selector.selector]]

/-- A row for each text, the first of them with a label. -/
def labelled (label : String) : List String → List (List String)
  | [] => [[label, noneText]]
  | first :: rest => [label, first] :: rest.map fun text => ["", text]

/-- What an action decided. -/
def executeTable (title : String) (output : ExecuteOutput) : Table where
  header := [title]
  rows := [
    ["Skip Restore:", if output.skipRestore then "true" else "false"],
    ["Item:", if output.updatedItem.isSome then "Updated" else "Unchanged"]]
    ++ labelled "Additional Items:" (output.additionalItems.map ResourceIdentifier.display)

/-- Operations a second in digits. -/
def operationsText (iops : Int64) : String := Json.numberText (decimalInt iops.toInt)

/-- Type and operations a second of a volume. -/
def volumeTable (title : String) (info : VolumeInfo) : Table where
  header := [title]
  rows := [
    ["Volume Type:", info.volumeType],
    ["IOPS:", (info.iops.map operationsText).getD noneText]]

end RestorePlugins.CommandLine
