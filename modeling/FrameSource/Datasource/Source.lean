import FrameSource.Datasource.Settings
import FrameSource.Query.Vocabulary
import FrameSource.Result.Decode

/-!
# Sources

A source answers queries of one datasource: it expands query templates with its vocabulary and
decodes result sets with its converters.
-/

namespace FrameSource

/-- How queries of a datasource are run. The timeout is in seconds. -/
structure QuerySettings where
  queryTimeout : UInt64 := 60
  unknownColumns : UnknownColumnPolicy := .fail
deriving DecidableEq, Repr

/-- A vocabulary and converters with the settings of their queries. -/
structure Source where
  vocabulary : Vocabulary
  converters : ConverterRegistry
  settings : QuerySettings

namespace Source

/-- A source with the standard vocabulary and converters. -/
def standard (settings : QuerySettings) : Source :=
  ⟨Vocabulary.standard, ConverterRegistry.standard, settings⟩

/-- A query template with its invocations expanded. -/
def interpolate (s : Source) (template : String) (ctx : QueryContext) :
    Except ExpansionError String :=
  s.vocabulary.expand template ctx

/-- The frame of all rows of a memory cursor. -/
def decode (s : Source) (cursor : MemoryCursor) : Except DecodeError Frame :=
  decodeMemory cursor s.converters s.settings.unknownColumns

end Source

end FrameSource
