/-!
The closed set of problem codes, with their names.
-/
namespace DesignTables

/-- The kind of a problem found in the sheets. -/
inductive Code where
  | noChecked | noKeyField | multipleKeyFields | notSubFolder | spaceInTitle | duplicateTitle
  | noDataType | enumNullToSpace | emptyKey | emptyReferenceValue | emptyUniqueValue
  | invalidEnumRefField | invalidRefName | invalidChangeField | invalidArrayrefName
  | invalidArraycntrefName | invalidMergeHeader | duplicateTableName | unknownTableReference
  | invalidTypeTable | missingShardKey
  | duplicateKey | nullNotAllowed | newlineInText | intValueError | intValueNull
  | floatValueError | floatValueNull | boolValueError | boolValueNull | typeValueSpaceError
  | typeValueNull | stringValueQuoteError | arraySizeMismatch | nullTypeGroup | nullTypeText
  | nullTypeValue | duplicateTypeGroupAnotherSheet | duplicateTypeTextInTypeGroup
  | duplicateTypeValueInTypeGroup | duplicateLocalTextKey | mergeExportMismatch
  | mergeDataTypeMismatch | mergeEnumMismatch | shardKeyValueError | duplicateUniqueValue
  | undefinedTypeGroup | typeNoneRequired | invalidTypeText | emptyTypeValue
  | unknownLocalTextKey | arraySizeMissing | arraySizeRefMissing | arraySizeRefMismatch
  | referenceValueNotFound | referenceOriginMissing
deriving DecidableEq, Repr

namespace Code

/-- The name of a code as it is reported. -/
def name : Code → String
  | noChecked => "NO_CHECKED"
  | noKeyField => "NO_KEY_FIELD"
  | multipleKeyFields => "MULTIPLE_KEY_FIELDS"
  | notSubFolder => "NOT_SUB_FOLDER"
  | spaceInTitle => "SPACE_IN_TITLE"
  | duplicateTitle => "DUPLICATE_TITLE"
  | noDataType => "NO_DATA_TYPE"
  | enumNullToSpace => "ENUM_NULL_TO_SPACE"
  | emptyKey => "EMPTY_KEY"
  | emptyReferenceValue => "EMPTY_REFERENCE_VALUE"
  | emptyUniqueValue => "EMPTY_UNIQUE_VALUE"
  | invalidEnumRefField => "INVALID_ENUM_REF_FIELD"
  | invalidRefName => "INVALID_REF_NAME"
  | invalidChangeField => "INVALID_CHANGE_FIELD"
  | invalidArrayrefName => "INVALID_ARRAYREF_NAME"
  | invalidArraycntrefName => "INVALID_ARRAYCNTREF_NAME"
  | invalidMergeHeader => "INVALID_MERGE_HEADER"
  | duplicateTableName => "DUPLICATE_TABLE_NAME"
  | unknownTableReference => "UNKNOWN_TABLE_REFERENCE"
  | invalidTypeTable => "INVALID_TYPE_TABLE"
  | missingShardKey => "MISSING_SHARD_KEY"
  | duplicateKey => "DUPLICATE_KEY"
  | nullNotAllowed => "NULL_NOT_ALLOWED"
  | newlineInText => "NEWLINE_IN_TEXT"
  | intValueError => "INT_VALUE_ERROR"
  | intValueNull => "INT_VALUE_NULL"
  | floatValueError => "FLOAT_VALUE_ERROR"
  | floatValueNull => "FLOAT_VALUE_NULL"
  | boolValueError => "BOOL_VALUE_ERROR"
  | boolValueNull => "BOOL_VALUE_NULL"
  | typeValueSpaceError => "TYPE_VALUE_SPACE_ERROR"
  | typeValueNull => "TYPE_VALUE_NULL"
  | stringValueQuoteError => "STRING_VALUE_QUOTE_ERROR"
  | arraySizeMismatch => "ARRAY_SIZE_MISMATCH"
  | nullTypeGroup => "NULL_TYPE_GROUP"
  | nullTypeText => "NULL_TYPE_TEXT"
  | nullTypeValue => "NULL_TYPE_VALUE"
  | duplicateTypeGroupAnotherSheet => "DUPLICATE_TYPE_GROUP_ANOTHER_SHEET"
  | duplicateTypeTextInTypeGroup => "DUPLICATE_TYPE_TEXT_IN_TYPE_GROUP"
  | duplicateTypeValueInTypeGroup => "DUPLICATE_TYPE_VALUE_IN_TYPE_GROUP"
  | duplicateLocalTextKey => "DUPLICATE_LOCAL_TEXT_KEY"
  | mergeExportMismatch => "MERGE_EXPORT_MISMATCH"
  | mergeDataTypeMismatch => "MERGE_DATA_TYPE_MISMATCH"
  | mergeEnumMismatch => "MERGE_ENUM_MISMATCH"
  | shardKeyValueError => "SHARD_KEY_VALUE_ERROR"
  | duplicateUniqueValue => "DUPLICATE_UNIQUE_VALUE"
  | undefinedTypeGroup => "UNDEFINED_TYPE_GROUP"
  | typeNoneRequired => "TYPE_NONE_REQUIRED"
  | invalidTypeText => "INVALID_TYPE_TEXT"
  | emptyTypeValue => "EMPTY_TYPE_VALUE"
  | unknownLocalTextKey => "UNKNOWN_LOCAL_TEXT_KEY"
  | arraySizeMissing => "ARRAY_SIZE_MISSING"
  | arraySizeRefMissing => "ARRAY_SIZE_REF_MISSING"
  | arraySizeRefMismatch => "ARRAY_SIZE_REF_MISMATCH"
  | referenceValueNotFound => "REFERENCE_VALUE_NOT_FOUND"
  | referenceOriginMissing => "REFERENCE_ORIGIN_MISSING"

/-- Every code. -/
def all : List Code :=
  [noChecked, noKeyField, multipleKeyFields, notSubFolder, spaceInTitle, duplicateTitle,
   noDataType, enumNullToSpace, emptyKey, emptyReferenceValue, emptyUniqueValue,
   invalidEnumRefField, invalidRefName, invalidChangeField, invalidArrayrefName,
   invalidArraycntrefName, invalidMergeHeader, duplicateTableName, unknownTableReference,
   invalidTypeTable, missingShardKey, duplicateKey, nullNotAllowed, newlineInText, intValueError,
   intValueNull, floatValueError, floatValueNull, boolValueError, boolValueNull,
   typeValueSpaceError, typeValueNull, stringValueQuoteError, arraySizeMismatch, nullTypeGroup,
   nullTypeText, nullTypeValue, duplicateTypeGroupAnotherSheet, duplicateTypeTextInTypeGroup,
   duplicateTypeValueInTypeGroup, duplicateLocalTextKey, mergeExportMismatch,
   mergeDataTypeMismatch, mergeEnumMismatch, shardKeyValueError, duplicateUniqueValue,
   undefinedTypeGroup, typeNoneRequired, invalidTypeText, emptyTypeValue, unknownLocalTextKey,
   arraySizeMissing, arraySizeRefMissing, arraySizeRefMismatch, referenceValueNotFound,
   referenceOriginMissing]

/-- The code of a name. -/
def ofName? (name : String) : Option Code := all.find? (·.name == name)

/-- What is wrong with a value whose check ended in a code. -/
def valueMessage (code : Code) (value : String) : String :=
  match code with
  | intValueError => "not an int value (" ++ value ++ ")"
  | intValueNull => "int value is empty"
  | floatValueError => "not a float value (" ++ value ++ ")"
  | floatValueNull => "float value is empty"
  | boolValueError => "not a bool value (" ++ value ++ ")"
  | boolValueNull => "bool value is empty"
  | typeValueSpaceError => "type text contains a space (" ++ value ++ ")"
  | typeValueNull => "type value is empty"
  | stringValueQuoteError => "string contains a double quote (" ++ value ++ ")"
  | other => other.name ++ " (" ++ value ++ ")"

end Code

end DesignTables
