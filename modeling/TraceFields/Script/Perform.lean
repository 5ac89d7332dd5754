import TraceFields.Script.Active
import TraceFields.Script.Equality
import TraceFields.Script.Exchange
import TraceFields.Script.Literal
import TraceFields.Script.Setup

namespace TraceFields.Script

open Run

def fieldScheme (delegate : Option Scheme) (names : Datum) : NamesForm → Except Fault FieldScheme
  | .arguments =>
    match names.items? with
    | some items => FieldScheme.ofArguments delegate items
    | none => .error .wrongType
  | .iterable => FieldScheme.ofArguments delegate [names]
  | .direct => FieldScheme.ofCollection delegate names

def decorate (s : Scheme) : Object → Run Made
  | .context c => do
    let (value, h) := s.decorate c.value (← heap)
    setHeap h
    if value = c.value then
      pure ⟨some (.context c), .decorated true (← view (.context c))⟩
    else
      let o ← newContext value
      pure ⟨some o, .decorated false (← view o)⟩
  | o => do
    if s.handsOn o.extensions? then pure ⟨some o, .decorated true (← view o)⟩ else throw .absent

def perform : Command → Run Made
  | .newScheme delegate names form => do
    let delegate ← delegate? delegate
    let f ← fieldScheme (delegate.map Delegate.toScheme) names form
    note .debug f.announcement
    if let some (.foreign _) := delegate then throw .absent
    pure ⟨some (.scheme (← hold f)), .fieldScheme f.names (schemeView f.scheme)⟩
  | .create ref key => do
    let s ← required (← delegate? ref)
    let p ← s.create key.factory
    pure ⟨some (.propagation (← hold p)), .keys p.keys⟩
  | .schemeInfo ref => do pure { answer := .scheme (schemeView (← required (← delegate? ref))) }
  | .decorate ref contextRef => do
    let delegate ← delegate? ref
    let o ← object contextRef
    decorate (← required delegate) o
  | .undefined => throw .unsupported
  | .context value extensions => do
    let extensions ← match extensions with
      | .items items => items.mapM item
      | .sharedWith other => do
        match (← object (some other)).ownExtensions? with
        | some extensions => pure extensions
        | none => throw .absent
    shown (← newContext { value with extensions })
  | .withExtensions ref items => do
    match ← object ref with
    | .context c => shown (← newContext (c.value.withExtensions (← items.mapM item)))
    | _ => throw .absent
  | .extraction ref sampled items => do
    let o ← object ref
    let extensions ← items.mapM item
    shown (.extraction (← freshId) o sampled extensions)
  | .attach ref e => do
    let o ← object ref
    match o with
    | .extraction _ _ _ _ => pure ()
    | _ => throw .absent
    let e ← item e
    match o.extraction? with
    | some r => shown (← newExtraction (r.append e))
    | none => throw .absent
  | .findExtension ref kind => do
    match (← object ref).extensions?, kind with
    | some extensions, .store => shown (.ofStore? (firstStore? extensions))
    | some extensions, .marker => shown (.ofMarker? (firstMarker? extensions))
    | none, _ => throw .absent
  | .contextOf ref => do
    match ← object ref with
    | .extraction _ o _ _ => shown o
    | _ => throw .absent
  | .equal a b => do
    let a ← object a
    let b ← object b
    shown (.truth ((← get).equal a b))
  | .same a b => do
    let a ← object a
    let b ← object b
    shown (.truth (a.isSame b))
  | .render ref => do shown (← object ref)
  | .newStore => do
    let (id, h) := (← heap).newStore []
    setHeap h
    shown (.store id)
  | .storeSet ref field value => do
    let id ← store (← object ref)
    setHeap ((← heap).set id field value)
    done
  | .storeGet ref field => do shown (← lookUp (← object ref) (.ofText? field))
  | .storeText ref => do
    let text ← textOf (← object ref)
    shown (.text text)
  | .storeSend ref carrierRef table rule => do
    let o ← object ref
    let target ← object carrierRef
    let id ← store o
    deliver target (sendAll (← setterInto target rule) (Entries.ofPairs table) ((← heap).fields id).named)
  | .get ref field => do
    let o ← object ref
    let h ← heap
    shown (.ofText? (← o.onFields fun c => getField h c field))
  | .set ref field value => do
    let o ← object ref
    let h ← heap
    setHeap (← o.onFields fun c => setField h c field value)
    done
  | .getActive field ref => do
    let o ← active (← object ref)
    let h ← heap
    shown (.ofText? (← o.onFields fun c => TraceFields.getActive h c field))
  | .setActive field value ref => do
    let o ← active (← object ref)
    let h ← heap
    setHeap (← o.onFields fun c => TraceFields.setActive h c field value)
    done
  | .carrier items => do shown (← newCarrier (Entries.ofPairs items))
  | .inject ref contextRef carrierRef rule => do
    let o ← object ref
    let target ← object carrierRef
    let p ← propagation o
    let context ← object contextRef
    deliver target (context.inject p (← setterInto target rule))
  | .extract ref carrierRef rule => do
    let p ← propagation (← object ref)
    let source ← object carrierRef
    shown (← extracted (p.extract (← getterFrom source rule) (← heap)))
  | .injectHeaders headers ref contextRef resolverRef => do
    let p ← object ref
    let given ← object contextRef
    let r ← object resolverRef
    let o ← match given with
      | .nothing => active r
      | o => pure o
    injectHeaders (Entries.ofPairs headers) p o
  | .extractHeaders headers ref => do
    let p ← propagation (← object ref)
    shown (← extracted (Headers.extract (Entries.ofPairs headers) p (← heap)))
  | .resolver => do pure ⟨some (.resolver (← freshResolver)), .nothing⟩
  | .enter ref contextRef scope => do
    let r ← resolver (← object ref)
    let o ← object contextRef
    let inner ← entered r o
    modify fun s => { s with ambient := s.ambient.enter inner scope }
    shown o
  | .exit scope => do
    match (← get).ambient.exit? scope with
    | some ambient =>
      modify fun s => { s with ambient }
      done
    | none => throw .unbound
  | .active ref environmentRef => do
    let o ← object ref
    match environmentRef with
    | none => shown (← lookUpNow o)
    | some name => shown (← lookUpNamed o name)
  | .capture => do
    pure ⟨some (← currentObject), .nothing⟩
  | .tagger ref names lead => do
    let t ← SpanTagger.ofCollection (← object ref) names lead.shown
    pure ⟨some (.tagger (← hold t)), .names t.names⟩
  | .span ref attributes parentRef => do
    let t ← tagger (← object ref)
    span t attributes (← object parentRef)
  | .taggerHooks ref => do
    let _ ← tagger (← object ref)
    pure { answer := .hooks }
  | .init fields delegate configFile debug => do
    setUp fields (← delegate? delegate) configFile debug
  | .reset => do
    modify fun s => { s with registration := s.registration.reset }
    done
  | .registeredResolver => do
    let found := (← get).registration.resolver
    pure ⟨found, .truth found.isSome⟩
  | .registration => do
    let r := (← get).registration
    pure { answer := .registration r.debug r.scheme.isSome r.resolver.isSome r.verbose }
  | .register entry => do
    register entry
    done
  | .loadConfig configFile => do
    let s ← get
    set { s with registration := s.registration.noteLoaded s.sources configFile }
    pure { answer := .settings (← Settings.load s.sources configFile) }
  | .findConfig => do
    let found ← (← get).sources.find?
    shown (.ofText? (found.map Sources.Target.shown))
  | .writeFile path data => do
    let s ← get
    set { s with sources := ← s.sources.writeFile path data }
    done
  | .setVariable variable_ value => do
    let s ← get
    set { s with sources := ← s.sources.setVariable variable_ value }
    done

end TraceFields.Script
