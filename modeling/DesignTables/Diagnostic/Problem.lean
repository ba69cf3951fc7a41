import DesignTables.Diagnostic.Code
import DesignTables.Number.Integer

/-!
Problems by their causes, each with its code and its wording.
-/
namespace DesignTables

/-- A role that a column which may be empty cannot have. -/
inductive FilledRole where
  | enumeration | key | origin | unique
deriving DecidableEq, Repr

namespace FilledRole

/-- The code reported when a column of the role may be empty. -/
def code : FilledRole → Code
  | enumeration => .enumNullToSpace
  | key => .emptyKey
  | origin => .emptyReferenceValue
  | unique => .emptyUniqueValue

/-- The name of a role. -/
def name : FilledRole → String
  | enumeration => "enum"
  | key => "key"
  | origin => "origin"
  | unique => "unique"

end FilledRole

/-- Why a row of an enumeration sheet is not registered. -/
inductive EnumFault where
  | noGroup
  | noText
  | noValue
  | ownedByOtherSheet
  | repeatedText
  | repeatedValue
deriving DecidableEq, Repr

namespace EnumFault

/-- The code of a refusal. -/
def code : EnumFault → Code
  | noGroup => .nullTypeGroup
  | noText => .nullTypeText
  | noValue => .nullTypeValue
  | ownedByOtherSheet => .duplicateTypeGroupAnotherSheet
  | repeatedText => .duplicateTypeTextInTypeGroup
  | repeatedValue => .duplicateTypeValueInTypeGroup

/-- The column that a refusal is about. -/
def label : EnumFault → String
  | noGroup | ownedByOtherSheet => "Type Group"
  | noText | repeatedText => "Type Text"
  | noValue | repeatedValue => "Type Value"

/-- The wording of a refusal, given the group, text and value of the row. -/
def message (fault : EnumFault) (group text value : String) : String :=
  match fault with
  | noGroup => "type group is empty"
  | noText => "type text is empty"
  | noValue => "type value is empty"
  | ownedByOtherSheet => "type group is defined by another sheet (" ++ group ++ ")"
  | repeatedText => "duplicate type text (" ++ group ++ ":" ++ text ++ ")"
  | repeatedValue => "duplicate type value (" ++ group ++ ":" ++ value ++ ")"

end EnumFault

/-- A problem in the sheets. -/
inductive Problem where
  /-- No column is written out. -/
  | noExportedColumn
  | noKeyColumn
  /-- A second key column; `first` is the title of the first. -/
  | secondKey (first : String)
  | openSubfolder (subfolder : String)
  | spaceInTitle
  | repeatedTitle
  | noDataType
  | nullableRole (role : FilledRole)
  | unknownEnumSource (title : String)
  | unnamedCheckTarget (target : String)
  | unknownChangeSource (title : String)
  | unknownLengthSource (title : String)
  | unknownCountSource (title : String)
  | malformedMergeHeader (text : String)
  | repeatedTableName (name : String)
  | unknownCheckTable (table : String)
  | incompleteEnumSheet
  /-- The group field of a merge group is no column of its table. -/
  | missingShardColumn (group field : String)
  | repeatedKey (key : String)
  | nullRefused
  | lineBreak
  /-- A value that its type refuses, with the code of the refusal. -/
  | refusedValue (code : Code) (value : String)
  | wrongArraySize (declared value : String)
  | refusedEnumRow (fault : EnumFault) (group text value : String)
  | repeatedLocalizationKey (key : String)
  /-- Two sheets of a merge group differ on a column; the later sheet comes first. -/
  | exportDiffers (incoming known : String)
  | dataTypeDiffers (incoming known : String)
  | enumGroupDiffers (incoming known : String)
  | shardKeyNotInteger (value : String)
  | repeatedValue (value : String)
  | undefinedEnumGroup (group : String)
  /-- The group that a row names is not defined. -/
  | undefinedRowEnumGroup (group value : String)
  | noneRequired (value : String)
  | unknownEnumText (text : String)
  | emptyEnumValue
  | unknownLocalizationKey (key : String)
  | noArraySize
  | noSourceArraySize (title : String)
  | arraySizesDiffer (own source : Nat)
  | referenceNotFound (value : String)
  | noSuchOrigin (origin : String)
deriving DecidableEq, Repr

namespace Problem

/-- The code of a problem. -/
def code : Problem → Code
  | noExportedColumn => .noChecked
  | noKeyColumn => .noKeyField
  | secondKey _ => .multipleKeyFields
  | openSubfolder _ => .notSubFolder
  | spaceInTitle => .spaceInTitle
  | repeatedTitle => .duplicateTitle
  | noDataType => .noDataType
  | nullableRole role => role.code
  | unknownEnumSource _ => .invalidEnumRefField
  | unnamedCheckTarget _ => .invalidRefName
  | unknownChangeSource _ => .invalidChangeField
  | unknownLengthSource _ => .invalidArrayrefName
  | unknownCountSource _ => .invalidArraycntrefName
  | malformedMergeHeader _ => .invalidMergeHeader
  | repeatedTableName _ => .duplicateTableName
  | unknownCheckTable _ => .unknownTableReference
  | incompleteEnumSheet => .invalidTypeTable
  | missingShardColumn _ _ => .missingShardKey
  | repeatedKey _ => .duplicateKey
  | nullRefused => .nullNotAllowed
  | lineBreak => .newlineInText
  | refusedValue code _ => code
  | wrongArraySize _ _ => .arraySizeMismatch
  | refusedEnumRow fault _ _ _ => fault.code
  | repeatedLocalizationKey _ => .duplicateLocalTextKey
  | exportDiffers _ _ => .mergeExportMismatch
  | dataTypeDiffers _ _ => .mergeDataTypeMismatch
  | enumGroupDiffers _ _ => .mergeEnumMismatch
  | shardKeyNotInteger _ => .shardKeyValueError
  | repeatedValue _ => .duplicateUniqueValue
  | undefinedEnumGroup _ => .undefinedTypeGroup
  | undefinedRowEnumGroup _ _ => .undefinedTypeGroup
  | noneRequired _ => .typeNoneRequired
  | unknownEnumText _ => .invalidTypeText
  | emptyEnumValue => .emptyTypeValue
  | unknownLocalizationKey _ => .unknownLocalTextKey
  | noArraySize => .arraySizeMissing
  | noSourceArraySize _ => .arraySizeRefMissing
  | arraySizesDiffer _ _ => .arraySizeRefMismatch
  | referenceNotFound _ => .referenceValueNotFound
  | noSuchOrigin _ => .referenceOriginMissing

/-- The wording of a problem. -/
def message : Problem → String
  | noExportedColumn => "no column is exported"
  | noKeyColumn => "no key column is declared"
  | secondKey first => "key is already declared on " ++ first
  | openSubfolder subfolder => "subfolder must end with '/' (" ++ subfolder ++ ")"
  | spaceInTitle => "column title contains a space"
  | repeatedTitle => "column title is used twice"
  | noDataType => "no data type is declared"
  | nullableRole role => role.name ++ " columns cannot take null"
  | unknownEnumSource title => "typeref<" ++ title ++ "> names a missing column"
  | unnamedCheckTarget target => "check<" ++ target ++ "> must name table/field"
  | unknownChangeSource title => "change<" ++ title ++ "> names a missing column"
  | unknownLengthSource title => "arraysizeref<" ++ title ++ "> names a missing column"
  | unknownCountSource title => "arraysizecnt<" ++ title ++ "> names a missing column"
  | malformedMergeHeader text =>
    "merge header must be name,groupField,shardSize (" ++ text ++ ")"
  | repeatedTableName name => "table " ++ name ++ " is already defined by another sheet"
  | unknownCheckTable table => "check target " ++ table ++ " is not a known table"
  | incompleteEnumSheet =>
    "type sheets need type_group, type_text, type_value and type_desc columns"
  | missingShardColumn group field => "merge group " ++ group ++ " has no column " ++ field
  | repeatedKey key => "duplicate key (" ++ key ++ ")"
  | nullRefused => "null is not allowed in this column"
  | lineBreak => "text contains a line break"
  | refusedValue code value => code.valueMessage value
  | wrongArraySize declared value => "expected " ++ declared ++ " elements (" ++ value ++ ")"
  | refusedEnumRow fault group text value => fault.message group text value
  | repeatedLocalizationKey key => "localization key is already defined (" ++ key ++ ")"
  | exportDiffers incoming known =>
    "export mode differs from an earlier sheet (" ++ incoming ++ " != " ++ known ++ ")"
  | dataTypeDiffers incoming known =>
    "data type differs from an earlier sheet (" ++ incoming ++ " != " ++ known ++ ")"
  | enumGroupDiffers incoming known =>
    "enum group differs from an earlier sheet (" ++ incoming ++ " != " ++ known ++ ")"
  | shardKeyNotInteger value => "shard key must be an integer (" ++ value ++ ")"
  | repeatedValue value => "duplicate value (" ++ value ++ ")"
  | undefinedEnumGroup group => "type group is not defined (" ++ group ++ ")"
  | undefinedRowEnumGroup group value =>
    "type group is not defined (" ++ group ++ "/" ++ value ++ ")"
  | noneRequired value => "value must be NONE when the type group is NONE (" ++ value ++ ")"
  | unknownEnumText text => "unknown type text (" ++ text ++ ")"
  | emptyEnumValue => "type value is empty"
  | unknownLocalizationKey key => "unknown localization key (" ++ key ++ ")"
  | noArraySize => "no array size was recorded for this cell"
  | noSourceArraySize title => "no array size was recorded for " ++ title
  | arraySizesDiffer own source =>
    "array sizes differ (" ++ writeNat own ++ " != " ++ writeNat source ++ ")"
  | referenceNotFound value => "referenced value not found (" ++ value ++ ")"
  | noSuchOrigin origin => "referenced field does not exist (" ++ origin ++ ")"

end Problem

end DesignTables
