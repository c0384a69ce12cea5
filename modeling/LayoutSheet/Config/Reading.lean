import LayoutSheet.Config
import LayoutSheet.Json.Record

namespace LayoutSheet

open Json

def QueryKind.decoder : Decoder QueryKind := .choice ("@media", .media) ("@container", .container)

def Reference.decoder : Decoder Reference :=
  .form "LayoutRef" fun t ↦
    match t with
    | .string s => s.toOption.map .every
    | t => do
      let members ← t.members?
      let entries ← members.mapM fun (type, ids) ↦ ids.strings?.map (type, ·)
      return .chosen (.ofList entries)

def Length.decoder : Decoder Length :=
  .form "TokenValue" fun t ↦
    match t with
    | .string s => s.toOption.map .plain
    | t => do
      let members ← t.members?
      let named (name : String) := members.filterMap fun (key, v) ↦
        if key = name then some v else none
      let value ← match named "value" with
        | [v] => v.string?
        | _ => none
      let property ← match named "cssProperty" with
        | [] => some none
        | [.word .null] => some none
        | [v] => v.string?.map some
        | _ => none
      return .detailed value property

def Breakpoint.record : Record Breakpoint where
  title := "Breakpoint"
  blank := {}
  fields := [
    .optional "type" QueryKind.decoder fun b v ↦ { b with kind := v },
    .optional "min" (.optional .string) fun b v ↦ { b with min := v },
    .optional "max" (.optional .string) fun b v ↦ { b with max := v },
    .optional "container" (.optional .string) fun b v ↦ { b with container := v },
    .optional "layouts" (.list Reference.decoder) fun b v ↦ { b with layouts := v }]

def PageContainer.record : Record PageContainer where
  title := "ContainerSpec"
  blank := {}
  fields := [
    .optional "element" (.optional .string) fun p v ↦ { p with element := v },
    .optional "maxLayoutWidth" (.optional Length.decoder) fun p v ↦ { p with maxWidth := v },
    .optional "layoutMargin" (.optional Length.decoder) fun p v ↦ { p with margin := v },
    .optional "widthTokens" (.keyed Length.decoder) fun p v ↦ { p with widths := v },
    .optional "setRoot" .boolean fun p v ↦ { p with centered := v }]

def Theme.record : Record Theme where
  title := "ThemeSpec"
  blank := {}
  fields := [
    .optional "bg" (.optional .string) fun t v ↦ { t with background := v },
    .optional "color" (.optional .string) fun t v ↦ { t with color := v }]

def Config.record : Record Config where
  title := "Config"
  blank := {}
  fields := [
    .optional "breakpoints" (.keyed Breakpoint.record.decoder) fun c v ↦
      { c with breakpoints := v },
    .optional "core" (.list .string) fun c v ↦ { c with core := v },
    .optional "common" (.list .string) fun c v ↦ { c with common := v },
    .optional "layoutContainer" PageContainer.record.decoder fun c v ↦ { c with page := v },
    .optional "element" .string fun c v ↦ { c with element := v },
    .optional "layer" .string fun c v ↦ { c with layer := v },
    .optional "themes" (.keyed Theme.record.decoder) fun c v ↦ { c with themes := v }]

def Config.read (text : String) : Except Problem Config := Config.record.decoder.run text

end LayoutSheet
