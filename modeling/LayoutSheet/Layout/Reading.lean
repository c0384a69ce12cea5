import LayoutSheet.Layout
import LayoutSheet.Json.Record

namespace LayoutSheet

open Json

def RuleValue.decoder : Decoder RuleValue :=
  .form "CssValue" fun t ↦
    match t with
    | .string s => s.toOption.map .text
    | t => t.number?.map .number

def ScopedRule.record : Record ScopedRule where
  title := "Rule"
  blank := { selector := "" }
  fields := [
    .required "selector" .string fun r v ↦ { r with selector := v },
    .optional "properties" (.keyed RuleValue.decoder) fun r v ↦ { r with properties := v }]

def Variant.record : Record Variant where
  title := "Variant"
  blank := { id := "" }
  fields := [
    .required "id" .string fun r v ↦ { r with id := v },
    .optional "columns" (.optional .string) fun r v ↦ { r with columns := v },
    .optional "rows" (.optional .string) fun r v ↦ { r with rows := v },
    .optional "items" (.optional .word32) fun r v ↦ { r with items := v },
    .optional "rules" (.list ScopedRule.record.decoder) fun r v ↦ { r with rules := v }]

def LayoutFile.record : Record LayoutFile where
  title := "VariantFile"
  blank := { family := "" }
  fields := [
    .required "prefix" .string fun r v ↦ { r with family := v },
    .optional "name" (.optional .string) fun r v ↦ { r with name := v },
    .optional "desc" (.optional .string) fun r v ↦ { r with desc := v },
    .optional "layouts" (.list Variant.record.decoder) fun r v ↦ { r with layouts := v }]

def LayoutFile.read (text : String) : Except Problem LayoutFile :=
  LayoutFile.record.decoder.run text

end LayoutSheet
