import Flowchart.Workflow.Basic

/-!
# Workflows in documents

The Json form of workflows and their parts, in both directions. Identifiers and names must be
present; descriptions, lists of parts, settings, labels and defaults may be absent.
-/

namespace Flowchart

open Json Json.Decoder

/-- Kinds of connections in documents. -/
def ConnectionKind.decoder : Decoder ConnectionKind :=
  enumeration [("Success", .success), ("Error", .error)]

/-- A kind of connection as a document. -/
def ConnectionKind.toJson (k : ConnectionKind) : Value := .string k.name

/-- The fields of a connection. -/
def Connection.record : Record Connection where
  title := "struct BlockConnection"
  start := default
  fields := [
    required "id" Identifier.decoder fun v c => { c with id := v },
    required "source_block_id" Identifier.decoder fun v c => { c with source := v },
    required "target_block_id" Identifier.decoder fun v c => { c with target := v },
    required "connection_type" ConnectionKind.decoder fun v c => { c with kind := v },
    defaulted "label" Decoder.string.option fun v c => { c with label := v }]

/-- Connections in documents. -/
def Connection.decoder : Decoder Connection := Connection.record.decoder

/-- A connection as a document. -/
def Connection.toJson (c : Connection) : Value := .object [
  ("id", c.id.toJson),
  ("source_block_id", c.source.toJson),
  ("target_block_id", c.target.toJson),
  ("connection_type", c.kind.toJson),
  ("label", .ofOptionalText c.label)]

/-- The fields of a block. -/
def Block.record : Record Block where
  title := "struct Block"
  start := default
  fields := [
    required "id" Identifier.decoder fun v b => { b with id := v },
    required "name" Decoder.string fun v b => { b with name := v },
    defaulted "workflow_id" Identifier.decoder fun v b => { b with workflowId := v },
    required "system_block_id" Identifier.decoder fun v b => { b with typeId := v },
    defaulted "json_config" Decoder.string.option fun v b => { b with config := v }]

/-- Blocks in documents. -/
def Block.decoder : Decoder Block := Block.record.decoder

/-- A block as a document. -/
def Block.toJson (b : Block) : Value := .object [
  ("id", b.id.toJson),
  ("name", .string b.name),
  ("workflow_id", b.workflowId.toJson),
  ("system_block_id", b.typeId.toJson),
  ("json_config", .ofOptionalText b.config)]

/-- The fields of a variable. -/
def Variable.record : Record Variable where
  title := "struct WorkflowVariable"
  start := default
  fields := [
    required "id" Identifier.decoder fun v x => { x with id := v },
    required "name" Decoder.string fun v x => { x with name := v },
    defaulted "default_value" Decoder.string.option fun v x => { x with initial := v },
    defaulted "workflow_id" Identifier.decoder fun v x => { x with workflowId := v }]

/-- Variables in documents. -/
def Variable.decoder : Decoder Variable := Variable.record.decoder

/-- A variable as a document. -/
def Variable.toJson (x : Variable) : Value := .object [
  ("id", x.id.toJson),
  ("name", .string x.name),
  ("default_value", .ofOptionalText x.initial),
  ("workflow_id", x.workflowId.toJson)]

/-- The fields of a workflow. -/
def Workflow.record : Record Workflow where
  title := "struct Workflow"
  start := default
  fields := [
    required "id" Identifier.decoder fun v w => { w with id := v },
    required "name" Decoder.string fun v w => { w with name := v },
    defaulted "description" Decoder.string.option fun v w => { w with description := v },
    defaulted "blocks" Block.decoder.list fun v w => { w with blocks := v },
    defaulted "connections" Connection.decoder.list fun v w => { w with connections := v },
    defaulted "variables" Variable.decoder.list fun v w => { w with vars := v }]

/-- Workflows in documents. -/
def Workflow.decoder : Decoder Workflow := Workflow.record.decoder

/-- A workflow as a document. -/
def Workflow.toJson (w : Workflow) : Value := .object [
  ("id", w.id.toJson),
  ("name", .string w.name),
  ("description", .ofOptionalText w.description),
  ("blocks", .array (w.blocks.map Block.toJson)),
  ("connections", .array (w.connections.map Connection.toJson)),
  ("variables", .array (w.vars.map Variable.toJson))]

/-- The fields of a block type. -/
def BlockType.record : Record BlockType where
  title := "struct SystemBlock"
  start := default
  fields := [
    required "id" Identifier.decoder fun v t => { t with id := v },
    required "type" Decoder.string fun v t => { t with name := v },
    defaulted "description" Decoder.string fun v t => { t with description := v }]

/-- Block types in documents. -/
def BlockType.decoder : Decoder BlockType := BlockType.record.decoder

/-- A block type as a document. -/
def BlockType.toJson (t : BlockType) : Value := .object [
  ("id", t.id.toJson),
  ("type", .string t.name),
  ("description", .string t.description)]

end Flowchart
