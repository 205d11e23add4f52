/-!
The messages that a request for code generation is made of, with the fields that bear on how bytes
are read: texts, numbers that may come packed, and nested messages.  Fields that are not listed are
skipped by their wire type alone.
-/

namespace HttpAdapter.Wire

/-- The types of messages. -/
inductive MessageType where
  | request | version | file | message | extensionRange | reservedRange | field | oneof | enum
  | enumValue | service | method | fileOptions | messageOptions | fieldOptions | oneofOptions
  | enumOptions | enumValueOptions | serviceOptions | methodOptions | extensionRangeOptions
  | extensionDeclaration | featureSet | editionDefault | featureSupport | uninterpretedOption
  | namePart | sourceInfo | location | httpRule | httpPattern
  deriving DecidableEq, Repr

/-- How the content of a field is read. -/
inductive FieldShape where
  /-- A number, one to a field. -/
  | number
  /-- Numbers, one to a field or packed. -/
  | numbers
  /-- A text that is not checked. -/
  | text
  /-- A text that has to be UTF-8. -/
  | checkedText
  | nested (type : MessageType)
  deriving DecidableEq, Repr

/-- The number of the HTTP rule among the options of a method. -/
def httpRuleField : Nat := 72295728

/-- The shape of a field, if the message type has one of that number that matters here. -/
def MessageType.shape? : MessageType → Nat → Option FieldShape
  | .request, 1 => some .text
  | .request, 2 => some .text
  | .request, 3 => some (.nested .version)
  | .request, 15 => some (.nested .file)
  | .request, 17 => some (.nested .file)
  | .file, 1 => some .text
  | .file, 2 => some .text
  | .file, 4 => some (.nested .message)
  | .file, 5 => some (.nested .enum)
  | .file, 6 => some (.nested .service)
  | .file, 7 => some (.nested .field)
  | .file, 8 => some (.nested .fileOptions)
  | .file, 9 => some (.nested .sourceInfo)
  | .file, 10 => some .numbers
  | .file, 11 => some .numbers
  | .file, 12 => some .text
  | .message, 1 => some .text
  | .message, 2 => some (.nested .field)
  | .message, 3 => some (.nested .message)
  | .message, 4 => some (.nested .enum)
  | .message, 5 => some (.nested .extensionRange)
  | .message, 6 => some (.nested .field)
  | .message, 7 => some (.nested .messageOptions)
  | .message, 8 => some (.nested .oneof)
  | .message, 9 => some (.nested .reservedRange)
  | .extensionRange, 3 => some (.nested .extensionRangeOptions)
  | .field, 1 => some .text
  | .field, 4 => some .number
  | .field, 5 => some .number
  | .field, 6 => some .text
  | .field, 8 => some (.nested .fieldOptions)
  | .oneof, 2 => some (.nested .oneofOptions)
  | .enum, 1 => some .text
  | .enum, 2 => some (.nested .enumValue)
  | .enum, 3 => some (.nested .enumOptions)
  | .enum, 4 => some (.nested .reservedRange)
  | .enumValue, 3 => some (.nested .enumValueOptions)
  | .service, 1 => some .text
  | .service, 2 => some (.nested .method)
  | .service, 3 => some (.nested .serviceOptions)
  | .method, 1 => some .text
  | .method, 2 => some .text
  | .method, 3 => some .text
  | .method, 4 => some (.nested .methodOptions)
  | .method, 5 => some .number
  | .method, 6 => some .number
  | .fileOptions, 11 => some .text
  | .fileOptions, 50 => some (.nested .featureSet)
  | .fileOptions, 999 => some (.nested .uninterpretedOption)
  | .messageOptions, 12 => some (.nested .featureSet)
  | .messageOptions, 999 => some (.nested .uninterpretedOption)
  | .fieldOptions, 19 => some .numbers
  | .fieldOptions, 20 => some (.nested .editionDefault)
  | .fieldOptions, 21 => some (.nested .featureSet)
  | .fieldOptions, 22 => some (.nested .featureSupport)
  | .fieldOptions, 999 => some (.nested .uninterpretedOption)
  | .oneofOptions, 1 => some (.nested .featureSet)
  | .oneofOptions, 999 => some (.nested .uninterpretedOption)
  | .enumOptions, 7 => some (.nested .featureSet)
  | .enumOptions, 999 => some (.nested .uninterpretedOption)
  | .enumValueOptions, 2 => some (.nested .featureSet)
  | .enumValueOptions, 4 => some (.nested .featureSupport)
  | .enumValueOptions, 999 => some (.nested .uninterpretedOption)
  | .serviceOptions, 34 => some (.nested .featureSet)
  | .serviceOptions, 999 => some (.nested .uninterpretedOption)
  | .methodOptions, 35 => some (.nested .featureSet)
  | .methodOptions, 999 => some (.nested .uninterpretedOption)
  | .methodOptions, n => if n = httpRuleField then some (.nested .httpRule) else none
  | .extensionRangeOptions, 2 => some (.nested .extensionDeclaration)
  | .extensionRangeOptions, 50 => some (.nested .featureSet)
  | .extensionRangeOptions, 999 => some (.nested .uninterpretedOption)
  | .uninterpretedOption, 2 => some (.nested .namePart)
  | .sourceInfo, 1 => some (.nested .location)
  | .location, 1 => some .numbers
  | .location, 2 => some .numbers
  | .location, 3 => some .text
  | .location, 4 => some .text
  | .location, 6 => some .text
  | .httpRule, 1 => some .checkedText
  | .httpRule, 2 => some .checkedText
  | .httpRule, 3 => some .checkedText
  | .httpRule, 4 => some .checkedText
  | .httpRule, 5 => some .checkedText
  | .httpRule, 6 => some .checkedText
  | .httpRule, 7 => some .checkedText
  | .httpRule, 8 => some (.nested .httpPattern)
  | .httpRule, 11 => some (.nested .httpRule)
  | .httpRule, 12 => some .checkedText
  | .httpPattern, 1 => some .checkedText
  | .httpPattern, 2 => some .checkedText
  | _, _ => none

end HttpAdapter.Wire
