import BhDic.Python.Re

/-!
# Patterns of the local assistant

The patterns that `hr_assistant.py` recognises requests with, as they are written there. Each group
of them is about one kind of word.
-/

namespace BhDic.HrAssistant

open BhDic.Library BhDic.Python

variable (u : UnicodeData)

/-! ## Dates and counts -/

/-- `_NEXT_MONTH`. -/
def nextMonth : Regex := u.reAnyCase [r"\b(?:nel\s+)?(?:prossimo\s+mese|mese\s+prossimo)\b"]

/-- `_THIS_MONTH`. -/
def thisMonth : Regex := u.reAnyCase [r"\b(?:in\s+)?questo\s+mese\b"]

/-- `_NEXT_DAYS`. -/
def nextDays : Regex :=
  u.reAnyCase [r"\b(?:prossim[ioe]?\s+|nei\s+prossim[ei]\s+|entro(?:\s+i)?\s+)(\d{1,3})\s+giorn[io]\b"]

/-- `_NEXT_MONTHS`. -/
def nextMonths : Regex :=
  u.reAnyCase
    [r"\bprossim[ei]\s+(uno|due|tre|quattro|cinque|sei|sette|otto|nove|dieci|undici|",
      r"dodici|\d{1,2})\s+mes[ei]\b"]

/-- `_PAYROLL_MONTH`. -/
def payrollMonth : Regex :=
  u.reAnyCase
    [r"\b(gennaio|febbraio|marzo|aprile|maggio|giugno|luglio|agosto|settembre|",
      r"ottobre|novembre|dicembre)\b"]

/-- `_PAYROLL_YEAR`. -/
def payrollYear : Regex := u.re [r"\b(20\d{2})\b"]

/-- `_AGGREGATE_PATTERN`, made of `_AGGREGATE_MARKERS`. -/
def aggregatePattern : Regex :=
  u.reAnyCase [r"\b(?:", r"quanti|conteggio|numero|totale|organico", r")\b"]

/-! ## Employees -/

/-- `_EXPLICIT_EMPLOYEE_ID`. -/
def explicitEmployeeId : Regex :=
  u.re
    [r"(?i)\b(?:employee\s*id|dipendente\s+id|id\s+dipendente|id)\s*[:#]?\s*",
      r"(?!(?:dei|del|della|delle|di|dipendente|dipendenti)\b)",
      r"([A-Za-z0-9_-]{1,64})\b"]

/-- `_NUMERIC_EMPLOYEE_TARGET`. -/
def numericEmployeeTarget : Regex := u.re [r"(?i)\bdipend(?:ente|e|ete)\s+([0-9]{1,19})\b"]

/-- `_DIRECT_EMPLOYEE_SEARCH`. -/
def directEmployeeSearch : Regex :=
  u.re
    [r"(?is)^\s*(?:cerca|trova|trovami|search)\s+",
      r"(?:(?:il|la|un|una)\s+)?(?:dipendente|employee)\s+(.+?)[?!.]*\s*$"]

/-- `_BARE_EMPLOYEE_SEARCH`. -/
def bareEmployeeSearch : Regex :=
  u.re
    [r"(?is)^\s*(?:cerca|trova|trovami|search)\s+",
      r"([\wÀ-ÿ'-]{2,64}(?:\s+[\wÀ-ÿ'-]{2,64}){0,3})[?!.]*\s*$"]

/-- `_EMPLOYEE_EXISTENCE_SEARCH`. -/
def employeeExistenceSearch : Regex :=
  u.re
    [r"(?is)^\s*(?:c(?:[\x27\u2019]\s*[èe]|e)|esiste)\s+(?:un(?:a|o)?\s+)?",
      r"(?:dipend(?:ente|e|ete)|employee)\s+",
      r"(?:(?:che\s+)?(?:si\s+chiama|chiamat[oa])|di\s+nome)\s+(.+?)[?!.]*\s*$"]

/-- `_EMPLOYEE_EXISTENCE_CHECK`. -/
def employeeExistenceCheck : Regex :=
  u.re
    [r"(?is)^\s*(?:verifica|controlla|cerca)\s+(?:se\s+)?(?:l[\x27\u2019]\s*)?",
      r"esistenza\s+(?:di\s+)?(?:un(?:a|o)?\s+)?",
      r"(?:dipend(?:ente|e|ete)|employee)\s+(.+?)[?!.]*\s*$"]

/-- `_EMPLOYEE_STATUS_LIST_FOLLOWUP`. -/
def employeeStatusListFollowup : Regex :=
  u.re
    [r"(?i)^\s*(?:dimmi|mostrami|elencami|fammi\s+vedere)\s+(?:quelli|quelle)\s+",
      r"(?:che\s+sono\s+)?(?:attiv[ei]|inattiv[ei]|disattivat[ei]|cessat[ei])\s*[?!.]*\s*$"]

/-- `_EMPLOYEE_TERM`. -/
def employeeTerm : Regex :=
  u.reAnyCase
    [r"\b(?:dipend(?:ent\w*|e|ete)|employee\w*|organico|collaborator\w*|personale|staff|",
      r"lavorator\w*)\b"]

/-- `_LIST_MARKER`. -/
def listMarker : Regex :=
  u.reAnyCase
    [r"\b(?:dimmi|elenc\w*|lista|mostra\w*|stampa\w*|tabella|visualizza\w*|",
      r"fammi\s+vedere)\b"]

/-- `_STATUS_ONLY_COUNT`. -/
def statusOnlyCount : Regex :=
  u.re
    [r"(?i)^\s*(?:quanti|quante|numero|totale|conteggio)\s+",
      r"(?:(?:dipendenti|persone|collaboratori)\s+)?(?:sono|risultano)?\s*",
      r"(?:attiv[ei]|inattiv[ei]|disattivat[ei]|cessat[ei])\s*[?!.]*\s*$"]

/-- `_EMPLOYEE_SORT_REQUEST`. -/
def employeeSortRequest : Regex :=
  u.re
    [r"(?i)^\s*(?:ordina|riordina|metti\s+in\s+ordine)\s+",
      r"(?:(?:i|le|gli)\s+)?(?:dipendenti|employee|organico)?\s*",
      r"(?:per|in\s+base\s+a)\s+",
      r"(?P<field>nome|cognome|matricola|stato|contratto|scadenza)\b",
      r"(?P<tail>.*)$"]

/-- `_EMPLOYEE_GROUP_FILTER`. -/
def employeeGroupFilter : Regex :=
  u.re
    [r"(?i)^\s*(?:filtra|mostra|mostrami|elenca|elencami|fammi\s+vedere|dimmi)\s+",
      r"(?:(?:i|le|gli)\s+)?(?:dipendenti|employee|collaboratori|personale)\b",
      r".*?\b(?:reparto|gruppo|team)\s+(?P<group>[\wÀ-ÿ'-]{2,64})\b"]

/-- `_EMPLOYEE_PAGE_REQUEST`. -/
def employeePageRequest : Regex :=
  u.re
    [r"(?i)\b(?:(?P<leading>prima|seconda|terza|quarta|quinta|sesta|settima|ottava|nona|",
      r"decima|[1-9][0-9]{0,3})\s+pagina|(?:pagina|pag\.)\s*(?:numero\s+)?",
      r"(?P<trailing>prima|seconda|terza|quarta|quinta|sesta|settima|ottava|nona|decima|",
      r"[1-9][0-9]{0,3}))\b"]

/-- The descending order. -/
def descending : Regex := u.re [r"\b(?:decrescente|discendente|dal\s+pi[uù]\s+recente)\b"]

/-! ## Payrolls -/

/-- `_PAYROLL_TERM`. -/
def payrollTerm : Regex := u.reAnyCase [r"\b(?:bust[ae](?:\s+pag[ae])?|cedolin[oi]|payroll\w*)\b"]

/-- `_PAYROLL_COLLECTIVE`. -/
def payrollCollective : Regex :=
  u.reAnyCase [r"\b(?:quali|chi|elenc\w*|lista|tutti\s+i\s+dipendenti|dipendenti)\b"]

/-- `_NET_PAY_REQUEST`. -/
def netPayRequest : Regex :=
  u.reAnyCase
    [r"\b(?:stipendi\w*|retribuzion\w*)(?:\s+nett\w*)?\s+(?:di|del|della|per)\b|",
      r"^\s*stipendi\w*(?:\s+nett\w*)?\s+",
      r"(?!(?:medi[oa]|mensil[ei]|annual[ei]|lord[oaie]|total[ei])\b)|",
      r"\bpaga\s+nett\w*\s+(?:di|del|della|per)\b|",
      r"\bnett\w*\s+(?:mensile|da\s+pagare|di\b|del\b|della\b|per\b)|",
      r"\bultim[oa]\s+(?:mese\s+pagat[oa]|busta\s+paga|cedolino)\b"]

/-- `_COLLOQUIAL_PAY_REQUEST`. -/
def colloquialPayRequest : Regex :=
  u.reAnyCase
    [r"\bquanto\s+(?:(?:ha|aveva)\s+(?:preso|percepito|ricevuto|guadagnato|incassato)|",
      r"(?:e|è)\s+stat[oa]\s+pagat[oa]|(?:hanno|abbiamo)\s+pagato|",
      r"(?:prende|percepisce|riceve|guadagna|incassa))\b"]

/-- `_COLLOQUIAL_PAY_TARGET`. -/
def colloquialPayTarget : Regex :=
  u.re
    [r"(?is)\bquanto\s+(?:(?:ha|aveva)\s+(?:preso|percepito|ricevuto|guadagnato|",
      r"incassato)|(?:e|è)\s+stat[oa]\s+pagat[oa]|(?:hanno|abbiamo)\s+pagato|",
      r"(?:prende|percepisce|riceve|guadagna|incassa))\s+",
      r"(?:(?:di\s+)?nett[oa]\s+)?",
      r"(?:il\s+dipendente\s+|la\s+dipendente\s+|il\s+|la\s+)?(.+?)",
      r"(?=\s+(?:(?:a|di|nel|per)\s+(?:(?:mese\s+)?(?:di\s+)?)?)?",
      r"(?:gennaio|febbraio|marzo|aprile|maggio|giugno|luglio|",
      r"agosto|settembre|ottobre|novembre|dicembre)\b|\s+(?:nel|del)\s+20\d{2}\b|[?!.]|$)"]

/-- `_NET_PAY_TARGET`. -/
def netPayTarget : Regex :=
  u.re
    [r"(?is)\b(?:(?:stipendi\w*|retribuzion\w*)(?:\s+nett\w*)?|",
      r"paga\s+nett\w*|nett\w*)\s+",
      r"(?:(?:di|del|della|per)\s+)?(?:il\s+dipendente\s+|la\s+dipendente\s+)?",
      r"(.+?)(?=\s+(?:del\s+)?mese\b|\s+(?:a|di|per)\s+(?:gennaio|febbraio|marzo|aprile|",
      r"maggio|giugno|luglio|agosto|settembre|ottobre|novembre|dicembre)\b|[?!.]|$)"]

/-- `_LATEST_PAY_TARGET`. -/
def latestPayTarget : Regex :=
  u.re
    [r"(?is)\b(?:ultim[oa]\s+(?:mese\s+pagat[oa]|busta\s+paga|cedolino)|",
      r"nett\w*\s+(?:dell['\u2019]?|del\s+)?ultim[oa]\s+mese(?:\s+pagat[oa])?)\s+",
      r"(?:di|del|della|per)\s+(?:il\s+dipendente\s+|la\s+dipendente\s+)?",
      r"(.+?)(?=[?!.]|$)"]

/-- `_PAYROLL_DOCUMENT_TARGET`. -/
def payrollDocumentTarget : Regex :=
  u.re
    [r"(?is)\b(?:bust[ae](?:\s+pag[ae])?|cedolin[oi])\s+",
      r"(?:(?:pi[uù]\s+recente|pi[uù]\s+nuov[oa]|ultim[oa])\s+)?",
      r"(?:(?:di|del|della|per)\s+)?",
      r"(?:il\s+dipendente\s+|la\s+dipendente\s+|dipendente\s+)?",
      r"(.+?)(?=\s+(?:(?:a|di|nel|per)\s+(?:(?:mese\s+)?(?:di\s+)?)?)?",
      r"(?:gennaio|febbraio|marzo|aprile|maggio|giugno|luglio|agosto|settembre|ottobre|",
      r"novembre|dicembre)\b|\s+(?:nel|del)\s+20\d{2}\b|[?!.]|$)"]

/-- The last month that was paid. -/
def latestPaid : Regex :=
  u.reAnyCase
    [r"\b(?:ultim[oa]\s+(?:mese\s+pagat[oa]|busta\s+paga|cedolino)|",
      r"nett[oa]\s+(?:dell['\u2019]?|del\s+)?ultim[oa]\s+mese)\b"]

/-! ## Resources -/

/-- `_PROFILE_TERM`. -/
def profileTerm : Regex :=
  u.reAnyCase
    [r"\b(?:profilo|anagrafica|dossier(?:\s+hr)?|tutti\s+i\s+dati|dati\s+disponibili|",
      r"(?:i\s+suoi|le\s+sue)\s+(?:dati|informazioni)|la\s+sua\s+scheda|",
      r"dati\s+anagrafic\w*|tutti\s+i\s+record|record\s+(?:del(?:la)?|di)\s+dipend\w*|",
      r"dati\s+(?:del(?:la)?|di)\s+dipend\w*|scheda\s+(?:del(?:la)?|di)\s+dipend\w*|",
      r"tutto\s+su|",
      r"tutte\s+le\s+informazioni(?:\s+disponibili)?|tutto\s+quello\s+che\s+sai)\b"]

/-- `_NAMED_EMPLOYEE_TARGET`. -/
def namedEmployeeTarget : Regex :=
  u.re
    [r"(?is)\b(?:del(?:la)?\s+dipendente|dipendente)\s+",
      r"(.+?)(?=\s+(?:del|nel|per|a)\s+(?:mese|periodo|20\d{2})\b|[?!.]|$)"]

/-- `_RESOURCE_OF_TARGET`. -/
def resourceOfTarget : Regex :=
  u.re
    [r"(?is)\b(?:document[oi]|ruol[oi]|permess[oi]|timbratur\w*|bilanc(?:io|i)|sald[oi]|",
      r"contator[ei]|maturazion[ei]|contratt[oi])\s+(?:di|del|della)\s+",
      r"(?:il\s+dipendente\s+|la\s+dipendente\s+|dipendente\s+)?",
      r"(.+?)(?=\s+(?:del|nel|per|a)\s+(?:mese|periodo|20\d{2})\b|[?!.]|$)"]

/-- `_PROFILE_TARGET`. -/
def profileTarget : Regex :=
  u.re
    [r"(?is)\b(?:profilo|anagrafica|dossier(?:\s+hr)?|tutti\s+i\s+dati|",
      r"tutti\s+i\s+record|dati\s+disponibili|dati\s+anagrafic\w*|",
      r"dati|record|informazioni|dettagli|scheda|",
      r"tutte\s+le\s+informazioni(?:\s+disponibili)?|",
      r"tutto(?:\s+quello\s+che\s+sai)?)(?:\s+complet[oa])?\s+",
      r"(?:di|del|della|su|per)\s+",
      r"(?:(?:il|la)\s+)?(?:dipend(?:ente|e|ete)\s+|employee\s+)?",
      r"(.+?)(?=[?!.]|$)"]

/-- `_CONVERSATIONAL_PROFILE_TARGET`. -/
def conversationalProfileTarget : Regex :=
  u.re
    [r"(?is)^\s*(?:chi\s+(?:e|è)|parlami\s+(?:di|del|della)|",
      r"cosa\s+sai\s+(?:di|su)|dimmi\s+qualcosa\s+(?:di|su))\s+",
      r"(?:(?:il|la)\s+)?(?:dipend(?:ente|e|ete)\s+|employee\s+)?",
      r"(.+?)[?!.]*\s*$"]

/-- `_RESOURCE_FOR_TARGET`. -/
def resourceForTarget : Regex :=
  u.re
    [r"(?is)\b(?:document[oi](?:\s+in\s+scadenza)?|ferie|permess\w*|",
      r"bilanc(?:io|i)|sald[oi]|contator[ei]|maturazion[ei]|rate[oi]|maturat\w*|",
      r"contratt[oi])\b",
      r".{0,48}?\b(?:per|da)\s+(?:il\s+dipendente\s+|la\s+dipendente\s+|",
      r"dipendente\s+)?(.+?)(?=[?!.]|$)"]

/-- `_DOCUMENT_CONTEXT_TARGET`. -/
def documentContextTarget : Regex :=
  u.re
    [r"(?is)(?:\bdocument[oi]\s+(?:di|del|della)\s+(.+?)\s+",
      r"(?:sono|risultano|che\s+sono)\s+(?:in\s+scadenza|scadut[oi]|da\s+firmare|",
      r"da\s+leggere)(?=[?!.]|$)|\bdocument[oi]\s+(?:in\s+scadenza|scadut[oi]|",
      r"da\s+firmare|da\s+leggere)\s+(?:per|di|del|della)\s+(.+?)(?=[?!.]|$))"]

/-- `_LEAVE_BALANCE_TARGET`. -/
def leaveBalanceTarget : Regex :=
  u.re
    [r"(?is)\b(?:quant[ei]\s+)?(?:ferie|permess\w*)\b.{0,64}?",
      r"\b(?:rest\w*|residu\w*|maturat\w*|disponibil\w*)\b.{0,24}?",
      r"\b(?:a|di|per|da)\s+(.+?)(?=[?!.]|$)"]

/-- `_LEAVE_BALANCE_SUMMARY_TARGET`. -/
def leaveBalanceSummaryTarget : Regex :=
  u.re
    [r"(?is)\b(?:sald[oi]|bilanc(?:io|i))(?:\s+20\d{2})?\b.{0,48}?",
      r"\b(?:ferie|permess\w*)?\b.{0,24}?\b(?:di|per|da)\s+(.+?)(?=[?!.]|$)"]

/-- `_ROLE_SUBJECT_TARGET`. -/
def roleSubjectTarget : Regex :=
  u.re
    [r"(?is)(?:\b(?:permess[oi]|ruol[oi])\b.{0,24}?\bha\s+(.+?)",
      r"(?:\s+(?:sul|nel)\s+portale\b|(?=[?!.]|$))|",
      r"\b(?:a\s+qual[ei]\s+)?grupp[oi]\s+appartiene\s+(.+?)(?=[?!.]|$))"]

/-- `_TIME_SUBJECT_TARGET`. -/
def timeSubjectTarget : Regex :=
  u.re
    [r"(?is)^\s*(?:il\s+dipendente\s+|la\s+dipendente\s+|dipendente\s+)?",
      r"(.+?)\s+(?:pu[oò]\s+timbr(?:a|are)|(?:è|e)\s+abilitat[oa]\s+all[ae]\s+",
      r"timbratur\w*)\b"]

/-- `_CONTRACT_SUBJECT_TARGET`. -/
def contractSubjectTarget : Regex :=
  u.re [r"(?is)\b(?:che|qual[ei]?)\s+contratt[oi]\s+(?:ha|hanno)\s+(.+?)(?=[?!.]|$)"]

/-- `_MATURATION_SUBJECT_TARGET`. -/
def maturationSubjectTarget : Regex :=
  u.re
    [r"(?is)(?:\bcosa\s+ha\s+maturat[oa]\s+(.+?)(?=[?!.]|$)|",
      r"\brate[oi]\s+maturat[ei]\s+(?:di|da|per)\s+(.+?)(?=[?!.]|$))"]

/-- `_LOCAL_RESOURCE_TERMS`, all of high sensitivity. -/
def localResourceTerms : List (Regex × String) :=
  [(u.reAnyCase
      [r"\b(?:document[oi]|documents?)\b"], "EMP-DOC-001"),
    (u.reAnyCase
      [r"\b(?:ruol[oi]|roles?|permess[oi]|grupp[oi])\b"], "EMP-RBAC-001"),
    (u.reAnyCase
      [r"\b(?:timbratur\w*|timbr(?:a|are|ano)|timestamps?|access[oi]\s+presenze)\b"], "EMP-TIME-001"),
    (u.reAnyCase
      [r"\b(?:bilanc(?:io|i)|sald[oi]|contator[ei]|balances?)\b|",
        r"\b(?:ferie|permess\w*)\b(?=.{0,64}\b(?:rest\w*|residu\w*|",
        r"maturat\w*|disponibil\w*))"], "EMP-BAL-001"),
    (u.reAnyCase
      [r"\b(?:maturazion[ei]|maturations?|rate[oi]|maturat\w*)\b"], "EMP-MAT-001"),
    (u.reAnyCase
      [r"\b(?:contratt[oi]|contracts?)\b"], "EMP-CONTRACT-001")]

/-- `_RESOURCE_READ_ACTION`. -/
def resourceReadAction : Regex :=
  u.reAnyCase
    [r"\b(?:dimmi|mostra\w*|controlla\w*|vedere|recupera\w*|confronta\w*|qual[ei]?|quali|",
      r"chi|che|cosa|apri\w*|verifica\w*|riporta\w*|dammi|cerca\w*|esporta\w*|",
      r"trova\w*|fammi\s+vedere)\b"]

/-- Documents that are waited for. -/
def awaited : Regex := u.reAnyCase [r"\b(?:attes[ao]|pending)\b"]

/-! ## Actions -/

/-- `_CAPABILITIES_MARKER`. -/
def capabilitiesMarker : Regex :=
  u.reAnyCase [r"\b(?:funzioni|funzionalit[aà]|capabilit(?:y|ies)|cosa\s+(?:puoi|sa)\s+fare)\b"]

/-- `_EXPORT_FORMAT`. -/
def exportFormat : Regex :=
  u.reAnyCase [r"\b(?P<format>xlsx|excel|foglio\s+di\s+calcolo|pdf|docx|doc|word|documento)\b"]

/-- `_EXPORT_ACTION`. -/
def exportAction : Regex :=
  u.reAnyCase [r"\b(?:genera\w*|crea\w*|prepara\w*|esporta\w*|scarica\w*|fammi|produci)\b"]

/-- `_ACTIVATE_ACTION`. -/
def activateAction : Regex := u.reAnyCase [r"\b(?:attiva|ativa|riattiva|riativa|ri-?attiva)\b"]

/-- `_DEACTIVATE_ACTION`. -/
def deactivateAction : Regex :=
  u.reAnyCase [r"\b(?:disattiva|disativa|disattivia|disattivia|rendi\s+inattiv[oa])\b"]

/-- `_STATUS_TARGET`. -/
def statusTarget : Regex :=
  u.re
    [r"(?is)\b(?:attiva|ativa|riattiva|riativa|ri-?attiva|disattiva|disativa|disattivia|",
      r"rendi\s+inattiv[oa])\b\s+(?:il\s+|la\s+|un\s+|una\s+)?",
      r"(?:dipend(?:ent\w*|e|ete)\s+)?(.+?)\s*$"]

/-- `_MOTIVATION`. -/
def motivation : Regex := u.re [r"(?is)\b(?:motivo|motivazione)\s*[:=-]\s*(.{3,500})$"]

/-- `_OPERATIONAL_HR_OBJECT`. -/
def operationalHrObject : Regex :=
  u.reAnyCase
    [r"\b(?:dipend(?:ent\w*|e|ete)|employee\w*|collaborator\w*|personale|staff|",
      r"lavorator\w*|organico|contratt\w*|document\w*|bust[ae]\s+paga|cedolin\w*|",
      r"stipendi\w*|payroll\w*|ferie|permess\w*|maturazion\w*|timbratur\w*|",
      r"presenz\w*|ruol\w*)\b"]

/-- `_TECHNICAL_TARGET`. -/
def technicalTarget : Regex :=
  u.re [r"(?i)(?:https?://|www\.|\b(?:token|password|cookie|select|drop|curl|powershell|bash)\b)"]

/-- `_NOTIFICATION_TERM`. -/
def notificationTerm : Regex := u.reAnyCase [r"\b(?:notifica|notifiche|avvis[oi]|alert)\b"]

/-- `_NOTIFICATION_STATE`. -/
def notificationState : Regex :=
  u.re
    [r"(?i)\bsegna\w*\s+(?:la\s+)?notifica\s+(?:#\s*)?([1-9][0-9]{0,15})\s+",
      r"come\s+(non\s+)?lett[ao]\b"]

/-- Notifications that are not read yet. -/
def unread : Regex := u.reAnyCase [r"\b(?:non\s+lett[aei]|nuov[ei]|da\s+leggere)\b"]

/-- What a target can begin with. -/
def withId : Regex := u.re [r"(?i)^con\s+id\s+"]

/-- A contract. -/
def contractWord : Regex := u.reAnyCase [r"\bcontratt\w*\b"]

/-- An expiry. -/
def expiryWord : Regex := u.reAnyCase [r"\bscad\w*\b"]

end BhDic.HrAssistant
