import Blueprint.Document.Policy
import Blueprint.Schema.Freeze

/-!
# The blueprint vocabulary

The definitions that every profile starts from: a blueprint with its inputs and
outputs, node and relationship types, node templates, plugins and groups.  They
refer to each other by name, so a profile that replaces, say, the executor of
operations does so throughout a document.
-/

namespace Blueprint.Vocabulary

/-- The definition of whole blueprints. -/
def root : String := "blueprint"

/-- The sections whose entries may not be declared twice with different content. -/
def noOverrideSections : List String :=
  ["node_types", "relationships", "plugins", "node_templates", "groups", "inputs", "outputs"]

/-- The blueprint itself and its plain parts. -/
def documentDefinitions : List Definition :=
  [((((((((((Definition.composite root
      ).withNeeded "tosca_definitions_version" "definitions_version"
      ).withOptional "description" "description"
      ).withOptional "imports" "imports"
      ).withOptional "inputs" "inputs"
      ).withOptional "outputs" "outputs"
      ).withOptional "node_types" "node_types"
      ).withOptional "node_templates" "node_templates"
      ).withOptional "relationships" "relationships"
      ).withOptional "plugins" "plugins"
      ).withOptional "groups" "groups",
   (Definition.leaf "definitions_version" .string).withValidator .filled,
   Definition.leaf "description" .string,
   Definition.list "imports" "import",
   (Definition.leaf "import" .string).withValidator .filled,
   Definition.leaf "any_value" .any,
   Definition.leaf "flag" .boolean,
   Definition.leaf "data_type_name" .string]

/-- Inputs and outputs. -/
def inputsAndOutputs : List Definition :=
  [Definition.map "inputs" "input",
   (((Definition.composite "input"
      ).withOptional "description" "description"
      ).withOptional "type" "data_type_name"
      ).withOptional "default" "any_value",
   Definition.map "outputs" "output",
   ((Definition.composite "output"
      ).withOptional "description" "description"
      ).withNeeded "value" "any_value"]

/-- Node types, relationships and the interfaces of both. -/
def typesAndInterfaces : List Definition :=
  [Definition.map "node_types" "node_type",
   (((Definition.composite "node_type"
      ).withOptional "derived_from" "node_type_parent"
      ).withOptional "properties" "property_schemas"
      ).withOptional "interfaces" "interfaces",
   (Definition.leaf "node_type_parent" .string).withValidator (.namesEntryOf "node_types"),
   Definition.map "property_schemas" "property_schema",
   ((((Definition.composite "property_schema"
      ).withOptional "type" "data_type_name"
      ).withOptional "description" "description"
      ).withOptional "default" "any_value"
      ).withOptional "required" "flag",
   Definition.map "interfaces" "interface",
   Definition.map "interface" "operation",
   ((((Definition.composite "operation"
      ).withOptional "implementation" "operation_implementation"
      ).withOptional "inputs" "any_value"
      ).withOptional "executor" "operation_executor"
      ).withOptional "max_retries" "retry_count",
   Definition.leaf "operation_implementation" .string,
   Definition.leaf "operation_executor" .string,
   Definition.leaf "retry_count" .integer,
   Definition.map "relationships" "relationship",
   ((((Definition.composite "relationship"
      ).withOptional "derived_from" "relationship_parent"
      ).withOptional "source_interfaces" "interfaces"
      ).withOptional "target_interfaces" "interfaces"
      ).withOptional "properties" "property_schemas",
   (Definition.leaf "relationship_parent" .string).withValidator (.namesEntryOf "relationships")]

/-- Node templates with their relationships and instances. -/
def templates : List Definition :=
  [Definition.map "node_templates" "node_template",
   (((((Definition.composite "node_template"
      ).withNeeded "type" "node_template_type"
      ).withOptional "properties" "any_value"
      ).withOptional "interfaces" "interfaces"
      ).withOptional "relationships" "node_template_relationships"
      ).withOptional "instances" "instances",
   (Definition.leaf "node_template_type" .string).withValidator (.namesEntryOf "node_types"),
   Definition.list "node_template_relationships" "node_template_relationship",
   (((((Definition.composite "node_template_relationship"
      ).withNeeded "type" "relationship_type"
      ).withNeeded "target" "relationship_target"
      ).withOptional "source_interfaces" "interfaces"
      ).withOptional "target_interfaces" "interfaces"
      ).withOptional "properties" "any_value",
   (Definition.leaf "relationship_type" .string).withValidator (.namesEntryOf "relationships"),
   (Definition.leaf "relationship_target" .string).withValidator (.namesEntryOf "node_templates"),
   (Definition.composite "instances").withField "deploy"
      ((Field.optional "instance_count").withDefault (.int 1)),
   Definition.leaf "instance_count" .integer]

/-- Plugins and groups. -/
def pluginsAndGroups : List Definition :=
  [Definition.map "plugins" "plugin",
   ((((Definition.composite "plugin"
      ).withNeeded "name" "plugin_name"
      ).withOptional "source" "plugin_source"
      ).withOptional "install" "flag"
      ).withOptional "install_arguments" "plugin_install_arguments",
   (Definition.leaf "plugin_name" .string).withValidator .filled,
   Definition.leaf "plugin_source" .string,
   Definition.leaf "plugin_install_arguments" .string,
   Definition.map "groups" "group",
   (Definition.composite "group").withNeeded "members" "group_members",
   (Definition.list "group_members" "group_member").withValidator .filled,
   (Definition.leaf "group_member" .string).withValidator (.namesEntryOf "node_templates")]

/-- All base definitions. -/
def definitions : List Definition :=
  documentDefinitions ++ inputsAndOutputs ++ typesAndInterfaces ++ templates ++ pluginsAndGroups

/-- The base merge policies: sections are joined without overriding, and all else
overrides. -/
def policies : PolicyTable :=
  PolicyTable.empty.registerNoOverride noOverrideSections

/-- The frozen registry of the base vocabulary alone. -/
def registry : Except ExtensionError Registry :=
  Registry.build root definitions []

end Blueprint.Vocabulary
