import QueryGate.Proofs.Front.Query
import QueryGate.Sql.Read.Definition
/-!
# Statements that define take from the front
-/

namespace QueryGate.Sql.Read

open Reader

set_option synthInstance.maxSize 1000000000

instance : Front optionalIfExists := by unfold optionalIfExists; infer_instance

instance : Front optionalIfNotExists := by unfold optionalIfNotExists; infer_instance

instance : Front names := by unfold names; infer_instance

instance : Front dropBehavior := by unfold dropBehavior; infer_instance

variable (g : Grammar) [g.Front]

/-! ## Columns and constraints -/

instance : Front (keyColumns g) := by unfold keyColumns; infer_instance

instance : Front plainColumns := by unfold plainColumns; infer_instance

instance : Front indexMethod := by unfold indexMethod; infer_instance

instance (n : Nat) : Front (indexOptions n) := by
  induction n with
  | zero => unfold indexOptions; infer_instance
  | succ n ih =>
    unfold indexOptions
    repeat' first | infer_instance | refine .seq inferInstance fun _ => ?_ | split

instance : Front (key g) := by unfold key; infer_instance

instance : Front keyOrIndex := by unfold keyOrIndex; infer_instance

instance : Front optionalIdent := by unfold optionalIdent; infer_instance

instance : Front optionalKeyName := by unfold optionalKeyName; infer_instance

instance : Front enforcement := by unfold enforcement; infer_instance

instance : Front referenceAction := by unfold referenceAction; infer_instance

instance (n : Nat) : Front (referenceTail n) := by
  induction n with
  | zero => unfold referenceTail; infer_instance
  | succ n ih => unfold referenceTail; infer_instance

instance : Front reference := by unfold reference; infer_instance

instance : Front (constraint? g) := by unfold constraint?; infer_instance

instance : Front (generated g) := by unfold generated; infer_instance

instance : Front (columnOption? g) := by
  unfold columnOption?
  repeat' first | infer_instance | refine .seq inferInstance fun _ => ?_ | split

instance (n : Nat) : Front (columnOptions g n) := by
  induction n with
  | zero => unfold columnOptions; infer_instance
  | succ n ih => unfold columnOptions; infer_instance

instance : Front (columnDefinition g) := by unfold columnDefinition; infer_instance

instance : Front (tableElement g) := by
  unfold tableElement
  refine .seq inferInstance fun found => ?_
  split
  · refine .seq inferInstance fun t => ?_
    split <;> infer_instance
  · infer_instance

instance (n : Nat) : Front (tableOptions n) := by
  induction n with
  | zero => unfold tableOptions; infer_instance
  | succ n ih =>
    unfold tableOptions
    repeat' first | infer_instance | refine .seq inferInstance fun _ => ?_ | split | dsimp only

/-! ## CREATE -/

instance : Front (createTable g) := by unfold createTable; infer_instance

instance : Front (createView g) := by unfold createView; infer_instance

instance : Front (createIndex g) := by unfold createIndex; infer_instance

instance : Front (parameter g) := by unfold parameter; infer_instance

instance : Front triggerEvent := by
  unfold triggerEvent
  refine .seq inferInstance fun event => ?_
  split <;> infer_instance

instance (n : Nat) : Front (triggerEvents n) := by
  induction n with
  | zero => unfold triggerEvents; infer_instance
  | succ n ih => unfold triggerEvents; infer_instance

instance (n : Nat) : Front (settings n) := by
  induction n with
  | zero => unfold settings; infer_instance
  | succ n ih =>
    unfold settings
    repeat' first | infer_instance | refine .seq inferInstance fun _ => ?_ | split

instance : Front createServer := by unfold createServer; infer_instance

instance : Front viewPrelude := by unfold viewPrelude; infer_instance

/-! ## ALTER and DROP -/

instance : Front columnPlace := by unfold columnPlace; infer_instance

instance : Front (partitions g) := by unfold partitions; infer_instance

instance : Front (dropPart g) := by unfold dropPart; infer_instance

instance : Front (alterColumn g) := by unfold alterColumn; infer_instance

instance : Front (tableChange g) := by
  unfold tableChange
  refine .seq inferInstance fun change => ?_
  repeat' first | infer_instance | refine .seq inferInstance fun _ => ?_ | split

instance : Front (schemaChange g) := by unfold schemaChange; infer_instance

instance : Front (alter g) := by
  unfold alter
  refine .seq inferInstance fun kind => ?_
  split <;> infer_instance

instance : Front routine := by unfold routine; infer_instance

instance : Front dropKind := by unfold dropKind; infer_instance

instance : Front drop := by unfold drop; infer_instance

instance : Front truncated := by unfold truncated; infer_instance

instance : Front (truncate g) := by unfold truncate; infer_instance

/-! ## Statements within -/

variable [Front g.statement]

instance (n : Nat) : Front (statements g n) := by
  induction n with
  | zero => unfold statements; infer_instance
  | succ n ih =>
    unfold statements
    refine .seq inferInstance fun t => ?_
    split <;> infer_instance

instance : Front (statementBody g) := by unfold statementBody; infer_instance

instance : Front (createProcedure g) := by unfold createProcedure; infer_instance

instance : Front (createTrigger g) := by unfold createTrigger; infer_instance

instance : Front (create g) := by
  unfold create
  dsimp only
  -- The last choice is a match, which instances do not look into.
  repeat' first
    | with_reducible refine .seq inferInstance fun _ => ?_
    | with_reducible refine .either ?_ ?_
    | infer_instance
    | split

end QueryGate.Sql.Read
